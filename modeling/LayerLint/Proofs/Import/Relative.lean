import LayerLint.Import.Resolver
import LayerLint.Proofs.Path.Written

/-!
# Relative imports in two notations

A module in a directory above the importing file can be written with dots, one for
the directory of the file and one more for every step up, or as a path with `../`
for every step.  The dots are followed by leaving out the last names of the
directory one by one; the path is put behind the directory, and its steps up
collapse together with the names in front of them.

Both lead to the same place as far as there is something to go back to: a
directory with a name, or a root above everything.  Beyond that a path climbs
out of the project, and leads nowhere unless the project has files outside.

## Main results

* `relative?_dottedImport`: the dots leave out names of the directory.
* `resolve?_slashedImport`: so do the steps up of a path.
* `resolve?_of_relative_name`: the two notations agree.
-/

namespace LayerLint.Import

open LayerLint.Path
open Std (ExtTreeSet)

/-! ## Two notations -/

/-- A component of a dotted name: not empty, and without dots, slashes, backslashes and
blanks, of which letters, digits and `_` are none. -/
def IsIdentifier (s : String) : Prop :=
  s ≠ "" ∧ ∀ c ∈ s.toList, c ≠ '.' ∧ c ≠ '/' ∧ c ≠ '\\' ∧ Text.isBlank c = false

instance (s : String) : Decidable (IsIdentifier s) :=
  decidable_of_iff (s ≠ "" ∧ s.toList.all fun c =>
    c ≠ '.' ∧ c ≠ '/' ∧ c ≠ '\\' ∧ Text.isBlank c = false) (by simp [IsIdentifier])

/-- A name behind dots: one, and one more for every step up. -/
def dottedImport (steps : Nat) (names : List String) : String :=
  String.ofList (List.replicate (steps + 1) '.') ++ Text.join "." names

/-- The same as a path, with an ending. -/
def slashedImport (steps : Nat) (names : List String) (ending : String) : String :=
  "./" ++ String.join (List.replicate steps "../") ++ Text.join "/" names ++ ending

/-! ## What stands behind the directory -/

/-- Names that can stand at the end of a path and keep it as it is written. -/
structure IsEnding (tail : List String) : Prop where
  ne_nil : tail ≠ []
  names : ∀ c ∈ tail, IsName c
  plain : ∀ c ∈ tail, IsPlain c
  starts : ∀ first ∈ tail.head?, ∀ c ∈ first.toList.head?, Text.isBlank c = false
  ends : ∀ last ∈ tail.getLast?, ∀ c ∈ last.toList.getLast?, Text.isBlank c = false

variable {root : Root} {front tail dirs names : List String} {steps : Nat}

theorem isPlain_of_mem_stepsUp : ∀ c ∈ stepsUp steps, IsPlain c := by
  intro c hc
  rcases List.mem_cons.1 hc with rfl | hup
  · exact ⟨⟨by decide, by decide⟩, by decide⟩
  · rw [List.eq_of_mem_replicate hup]
    exact ⟨⟨by decide, by decide⟩, by decide⟩

theorem IsEnding.first (h : IsEnding tail) : ∀ first ∈ tail.head?, first ≠ "" ∧
    ∀ c ∈ first.toList.head?, Text.isBlank c = false :=
  fun first hfirst => ⟨(h.names first (List.mem_of_head? hfirst)).1, h.starts first hfirst⟩

/-- There is no blank at the end of what is written with an ending. -/
theorem IsEnding.last (hfront : ∀ c ∈ front, IsPlain c) (h : IsEnding tail) :
    ∀ c ∈ (Text.join "/" (front ++ tail)).toList.getLast?, Text.isBlank c = false := by
  intro c hc
  have hne : ∀ c ∈ front ++ tail, c ≠ "" := fun c hc =>
    (List.mem_append.1 hc).elim (fun hc => (hfront c hc).1.1) fun hc => (h.names c hc).1
  rw [Text.getLast?_join hne] at hc
  obtain ⟨last, hlast, hin⟩ := Option.bind_eq_some_iff.1 hc
  have hsome : tail.getLast?.isSome :=
    Option.isSome_iff_ne_none.2 (mt List.getLast?_eq_none_iff.1 h.ne_nil)
  rw [List.getLast?_append, Option.or_of_isSome hsome] at hlast
  exact h.ends last hlast c hin

/-- In canonical form, the names of a path that are read collapse. -/
theorem canonical_front (hfront : ∀ c ∈ front, IsPlain c) (h : IsEnding tail) :
    canonical (Parts.written ⟨root, front ++ tail⟩) =
      (Parts.read ⟨root, front ++ tail⟩).collapsed.written := by
  have hplain : ∀ c ∈ front ++ tail, IsPlain c := fun c hc =>
    (List.mem_append.1 hc).elim (hfront c) (h.plain c)
  have hwritable : ∀ c ∈ front ++ tail, Writable c := fun c hc => (hplain c hc).1
  refine Parts.canonical_written hplain ?_
  rw [Parts.getLast?_written hwritable (List.append_ne_nil_of_right_ne_nil _ h.ne_nil)]
  exact h.last hfront

/-! ## Two notations of one path -/

theorem slashedImport_eq (steps : Nat) {ending : String} (htail : tail ≠ [])
    (h : Text.join "/" names ++ ending = Text.join "/" tail) :
    slashedImport steps names ending = Text.join "/" (stepsUp steps ++ tail) := by
  have hups : String.join (List.replicate steps "../") ++ Text.join "/" tail =
      Text.join "/" (List.replicate steps ".." ++ tail) := by
    induction steps with
    | zero => exact String.empty_append
    | succ steps ih =>
        rw [List.replicate_succ, List.replicate_succ, String.join_cons, String.append_assoc, ih,
          List.cons_append, Text.join_cons (List.append_ne_nil_of_right_ne_nil _ htail)]
        rfl
  rw [slashedImport, String.append_assoc, h, String.append_assoc, hups, stepsUp, List.cons_append,
    Text.join_cons (List.append_ne_nil_of_right_ne_nil _ htail)]
  rfl

/-- A path with steps up, taken relative to the directory of a canonical path. -/
theorem within_stepsUp {p : Parts} (hp : p.IsCanonical) (steps : Nat) (h : IsEnding tail) :
    within (directory p.written) (Text.join "/" (stepsUp steps ++ tail)) =
      Parts.written ⟨p.root, p.parent.names ++ stepsUp steps ++ tail⟩ := by
  have hmore : ∀ c ∈ stepsUp steps ++ tail, Writable c := fun c hc =>
    ((List.mem_append.1 hc).elim (isPlain_of_mem_stepsUp c) (h.plain c)).1
  have hdirs : ∀ c ∈ p.parent.names, Writable c := fun c hc =>
    hp.writable c ((List.dropLast_sublist p.names).mem hc)
  rw [Parts.directory_written hp.writable,
    Parts.within_written hdirs hmore (List.append_ne_nil_of_right_ne_nil _ h.ne_nil),
    List.append_assoc]
  rfl

/-- Every step leaves out a name. -/
theorem repeat_parent (steps : Nat) (p : Parts) :
    steps.repeat Parts.parent p = ⟨p.root, p.names.take (p.names.length - steps)⟩ := by
  induction steps with
  | zero => simp [Nat.repeat]
  | succ steps ih =>
      have htake : (p.names.take (p.names.length - steps)).dropLast =
          p.names.take (p.names.length - (steps + 1)) := by
        rw [List.dropLast_eq_take, List.length_take, List.take_take]
        congr 1
        omega
      rw [Nat.repeat, ih, Parts.parent, htake]

/-! ## Reading the notations -/

theorem IsIdentifier.plain {s : String} (h : IsIdentifier s) : IsPlain s :=
  ⟨⟨h.1, fun hin => (h.2 '/' hin).2.1 rfl⟩, fun hin => (h.2 '\\' hin).2.2.1 rfl⟩

theorem IsIdentifier.isName {s : String} (h : IsIdentifier s) : IsName s := by
  refine ⟨h.1, ?_, ?_⟩
  · rintro rfl
    exact (h.2 '.' (by decide)).1 rfl
  · rintro rfl
    exact (h.2 '.' (by decide)).1 rfl

/-- Identifiers, the last of them with an ending of its own, are an ending. -/
theorem isEnding_concat {init : List String} {last : String}
    (hinit : ∀ c ∈ init, IsIdentifier c) (hlast : IsName last) (hplain : IsPlain last)
    (hstarts : ∀ c ∈ last.toList.head?, Text.isBlank c = false)
    (hends : ∀ c ∈ last.toList.getLast?, Text.isBlank c = false) :
    IsEnding (init ++ [last]) := by
  have hcases {P : String → Prop} (hi : ∀ c, IsIdentifier c → P c) (hl : P last) :
      ∀ c ∈ init ++ [last], P c := by
    intro c hc
    rcases List.mem_append.1 hc with hc | hc
    · exact hi c (hinit c hc)
    · rwa [List.mem_singleton.1 hc]
  have hstart : ∀ c ∈ init ++ [last], ∀ d ∈ c.toList.head?, Text.isBlank d = false :=
    hcases (fun c hc d hd => (hc.2 d (List.mem_of_head? hd)).2.2.2) hstarts
  refine ⟨by simp, hcases (fun _ => IsIdentifier.isName) hlast,
    hcases (fun _ => IsIdentifier.plain) hplain,
    fun first hfirst => hstart first (List.mem_of_head? hfirst), fun l hl => ?_⟩
  obtain rfl : last = l := Option.some.inj (List.getLast?_concat.symm.trans hl)
  exact hends

/-- A file in a module's directory. -/
theorem isEnding_inside (h : ∀ c ∈ names, IsIdentifier c) :
    IsEnding (names ++ ["__init__.py"]) := by
  have hname : IsName "__init__.py" := by decide
  refine isEnding_concat h hname ⟨⟨hname.1, by decide⟩, by decide⟩ ?_ ?_
  · intro c hc
    obtain rfl : '_' = c := Option.some.inj hc
    decide
  · intro c hc
    obtain rfl : 'y' = c := Option.some.inj hc
    decide

/-- A module's own file. -/
theorem isEnding_file {init : List String} {last : String}
    (h : ∀ c ∈ init ++ [last], IsIdentifier c) : IsEnding (init ++ [last ++ ".py"]) := by
  have hlast := h last List.mem_append_cons_self
  have hlong (short : String) (hshort : short.length ≤ 2) : last ++ ".py" ≠ short := by
    rintro rfl
    rw [String.length_append] at hshort
    have hending : ".py".length = 3 := by decide
    omega
  have hout {c : Char} (hc : c ∉ ".py".toList) (hid : c ∉ last.toList) :
      c ∉ (last ++ ".py").toList := by
    rw [String.toList_append, List.mem_append, not_or]
    exact ⟨hid, hc⟩
  have hne : last ++ ".py" ≠ "" := hlong "" (by decide)
  obtain ⟨⟨-, hslash⟩, hbackslash⟩ := hlast.plain
  refine isEnding_concat (fun c hc => h c (List.mem_append_left _ hc))
    ⟨hne, hlong "." (by decide), hlong ".." (by decide)⟩
    ⟨⟨hne, hout (by decide) hslash⟩, hout (by decide) hbackslash⟩ ?_ ?_
  · intro c hc
    have hsome := List.isSome_head?.2 (mt String.toList_eq_nil_iff.1 hlast.1)
    rw [String.toList_append, List.head?_append, Option.or_of_isSome hsome] at hc
    exact (hlast.2 c (List.mem_of_head? hc)).2.2.2
  · intro c hc
    have hend : ".py".toList.getLast? = some 'y' := by decide
    rw [String.toList_append, List.getLast?_append, hend, Option.some_or] at hc
    obtain rfl : 'y' = c := Option.some.inj hc
    decide

/-- An import that starts with a dot is not quoted. -/
theorem bare_eq_self {imp : String} (hdot : imp.toList.head? = some '.')
    (hstrip : Text.strip imp = imp) : bare imp = imp := by
  have hunquote : unquoteChars imp.toList = imp.toList := by
    obtain ⟨rest, hrest⟩ := List.head?_eq_some_iff.1 hdot
    rw [hrest, unquoteChars]
    exact if_neg fun hquoted => absurd hquoted.1 (by decide)
  rw [bare, hstrip, unquote, hunquote, String.ofList_toList]

section Dots

variable (h : ∀ c ∈ names, IsIdentifier c) (hnames : names ≠ []) (steps : Nat)

include h

theorem bare_dottedImport : bare (dottedImport steps names) = dottedImport steps names := by
  have hblank : ∀ c ∈ (dottedImport steps names).toList, Text.isBlank c = false := by
    intro c hc
    rw [dottedImport, String.toList_append, String.toList_ofList, List.mem_append] at hc
    rcases hc with hdots | hjoin
    · obtain rfl : c = '.' := List.eq_of_mem_replicate hdots
      decide
    · rcases Text.mem_toList_join hjoin with hdot | ⟨name, hname, hin⟩
      · obtain rfl : c = '.' := List.mem_singleton.1 hdot
        decide
      · exact ((h name hname).2 c hin).2.2.2
  refine bare_eq_self (by simp [dottedImport, List.replicate_succ]) ?_
  exact Text.strip_eq_self (fun c hc => hblank c (List.mem_of_head? hc))
    fun c hc => hblank c (List.mem_of_getLast? hc)

include hnames

/-- Behind the dots there is no further dot, and no slash. -/
theorem exists_toList_dottedImport :
    ∃ c rest, (Text.join "." names).toList = c :: rest ∧ c ≠ '.' ∧ c ≠ '/' ∧
      (dottedImport steps names).toList = List.replicate (steps + 1) '.' ++ c :: rest := by
  obtain ⟨first, more, rfl⟩ := List.exists_cons_of_ne_nil hnames
  obtain ⟨hne, hchars⟩ := h first List.mem_cons_self
  obtain ⟨c, cs, hcs⟩ := List.exists_cons_of_ne_nil (mt String.toList_eq_nil_iff.1 hne)
  obtain ⟨rest, hrest⟩ := Text.exists_join_cons "." first more
  have hc := hchars c (hcs ▸ List.mem_cons_self)
  have hjoin : (Text.join "." (first :: more)).toList = c :: (cs ++ rest.toList) := by
    rw [hrest, String.toList_append, hcs, List.cons_append]
  refine ⟨c, cs ++ rest.toList, hjoin, hc.1, hc.2.1, ?_⟩
  rw [dottedImport, String.toList_append, String.toList_ofList, hjoin]

/-- An import with dots is read as a relative one. -/
theorem resolve?_dottedImport (r : Resolver) (source : String) :
    r.resolve? (dottedImport steps names) source =
      r.relative? (dottedImport steps names) source := by
  obtain ⟨c, rest, -, hdot, hslash, hlist⟩ := exists_toList_dottedImport h hnames steps
  have hempty : dottedImport steps names ≠ "" := by
    rintro heq
    rw [heq] at hlist
    simp at hlist
  have hbeside : ¬(Text.startsWith "./" (dottedImport steps names) ||
      Text.startsWith "../" (dottedImport steps names)) = true := by
    have hhere : "./".toList = ['.', '/'] := by decide
    have habove : "../".toList = ['.', '.', '/'] := by decide
    rw [Text.startsWith, Text.startsWith, hlist, hhere, habove]
    rcases steps with _ | _ | steps
    · simp [List.isPrefixOf, hdot.symm, hslash.symm]
    · simp [List.isPrefixOf, List.replicate_succ, hslash.symm]
    · simp [List.isPrefixOf, List.replicate_succ]
  have hrelative : Text.startsWith "." (dottedImport steps names) = true :=
    (Text.startsWith_singleton_iff (c := '.')).2 (by rw [hlist, List.replicate_succ]; rfl)
  rw [Resolver.resolve?, bare_dottedImport h, Resolver.resolveBare?, if_neg hempty,
    if_neg hbeside, if_pos hrelative]

/-- The dots leave out names of the directory, and behind it the name is a path. -/
theorem relative?_dottedImport (r : Resolver) {p : Parts} (hp : p.IsCanonical) :
    let base := p.parent.names.take (p.parent.names.length - steps)
    r.relative? (dottedImport steps names) p.written =
      (r.file? (Parts.written ⟨p.root, base ++ names⟩ ++ ".py")).or
        (r.file? (Parts.written ⟨p.root, base ++ (names ++ ["__init__.py"])⟩)) := by
  intro base
  obtain ⟨c, rest, hjoin, hdot, -, hlist⟩ := exists_toList_dottedImport h hnames steps
  have hdots : ((dottedImport steps names).toList.takeWhile (· = '.')).length = steps + 1 := by
    rw [hlist, List.takeWhile_append_of_pos (by simp),
      List.takeWhile_cons_of_neg (by simpa using hdot)]
    simp
  have hname : Text.dropChars (steps + 1) (dottedImport steps names) = Text.join "." names := by
    rw [Text.dropChars, hlist, List.drop_left' List.length_replicate, ← hjoin,
      String.ofList_toList]
  have hnonempty : Text.join "." names ≠ "" := by
    rintro heq
    rw [heq] at hjoin
    cases hjoin
  have hpath : Parts.ofPath (Text.replaceChar '.' '/' (Text.join "." names)) =
      ⟨.relative, names⟩ := by
    have hwritten : Text.replaceChar '.' '/' (Text.join "." names) =
        Parts.written ⟨.relative, names⟩ :=
      (Text.replaceChar_join fun c hc hin => ((h c hc).2 '.' hin).1 rfl).trans
        String.empty_append.symm
    rw [hwritten]
    exact Parts.ofPath_written (fun c hc => (h c hc).plain.1) fun hc => (h "." hc).isName.2.1 rfl
  have hstart : steps.repeat Parts.parent (Parts.ofPath p.written).parent = ⟨p.root, base⟩ := by
    rw [Parts.ofPath_written hp.writable fun hc => (hp.normal.ne_dot hc).2 rfl, repeat_parent]
    rfl
  have htext (more : List String) (hmore : more ≠ []) :
      (Parts.mk p.root (base ++ more)).text = Parts.written ⟨p.root, base ++ more⟩ :=
    if_neg fun hnone => hmore (List.append_eq_nil_iff.1 hnone.2).2
  unfold Resolver.relative?
  dsimp only
  rw [hdots, hname, if_neg hnonempty, hpath, Nat.add_sub_cancel, hstart]
  simp only [Parts.child, if_true, List.append_assoc, htext names hnames,
    htext (names ++ ["__init__.py"]) (List.append_ne_nil_of_left_ne_nil hnames _)]

end Dots

/-- A path with steps up stands behind the directory. -/
theorem resolve?_slashedImport (r : Resolver) {p : Parts} (hp : p.IsCanonical) (steps : Nat)
    {ending : String} (h : IsEnding tail)
    (hwritten : Text.join "/" names ++ ending = Text.join "/" tail) :
    r.resolve? (slashedImport steps names ending) p.written =
      r.file? (Parts.written ⟨p.root, p.parent.names ++ stepsUp steps ++ tail⟩) := by
  have heq := slashedImport_eq steps h.ne_nil hwritten
  have hhead : "./".toList = ['.', '/'] := by decide
  have hlist : ∃ rest, slashedImport steps names ending = "./" ++ rest := by
    refine ⟨String.join (List.replicate steps "../") ++ (Text.join "/" names ++ ending), ?_⟩
    rw [slashedImport]
    simp only [String.append_assoc]
  have hbeside := Text.startsWith_iff.2 hlist
  have hbare : bare (slashedImport steps names ending) = slashedImport steps names ending := by
    obtain ⟨rest, hrest⟩ := hlist
    have hdot : (slashedImport steps names ending).toList.head? = some '.' := by
      rw [hrest, String.toList_append, hhead]
      rfl
    refine bare_eq_self hdot (Text.strip_eq_self (fun c hc => ?_) ?_)
    · obtain rfl : '.' = c := Option.some.inj (hdot.symm.trans hc)
      decide
    · rw [heq]
      exact h.last isPlain_of_mem_stepsUp
  have hempty : slashedImport steps names ending ≠ "" := by
    rintro hnil
    rw [hnil] at hbeside
    revert hbeside
    decide
  rw [Resolver.resolve?, hbare, Resolver.resolveBare?, if_neg hempty, hbeside, Bool.true_or,
    if_pos rfl, Resolver.beside?, heq, within_stepsUp hp steps h]

/-! ## One place -/

/-- What is looked up for the two notations is one file. -/
theorem file?_climb (r : Resolver) (hdirs : Normal root dirs) (hfront : ∀ c ∈ dirs, IsPlain c)
    (h : IsEnding tail) (hsteps : root ≠ .relative ∨ steps < named dirs ∨
      steps = named dirs ∧ StartsPlainly dirs) :
    r.file? (Parts.written ⟨root, dirs.take (dirs.length - steps) ++ tail⟩) =
      r.file? (Parts.written ⟨root, dirs ++ stepsUp steps ++ tail⟩) := by
  have htaken : ∀ c ∈ dirs.take (dirs.length - steps), IsPlain c := fun c hc =>
    hfront c (List.mem_of_mem_take hc)
  have hclimbed : ∀ c ∈ dirs ++ stepsUp steps, IsPlain c := fun c hc =>
    (List.mem_append.1 hc).elim (hfront c) (isPlain_of_mem_stepsUp c)
  rw [Resolver.file?, Resolver.file?, canonical_front htaken h, canonical_front hclimbed h,
    Parts.read_climb hdirs hsteps h.first]

/-- Above the top of a relative path a path with steps up leads out of the project. -/
theorem file?_climb_above {known packageNames : List String} (hdirs : Normal .relative dirs)
    (hfront : ∀ c ∈ dirs, IsPlain c) (h : IsEnding tail) (hfirst : StartsPlainly dirs)
    (hsteps : named dirs < steps) (hknown : ∀ file ∈ known, Text.startsWith "../" file = false) :
    (Resolver.ofFiles known packageNames).file?
      (Parts.written ⟨.relative, dirs ++ stepsUp steps ++ tail⟩) = none := by
  obtain ⟨dirs', hdirs', hnamed, -, hread⟩ := Parts.exists_read_up hdirs hfirst
  obtain ⟨n, hclimb⟩ := collapse_climb_above hdirs' h.names (hnamed ▸ hsteps)
  have hwritten : Parts.written ⟨.relative, List.replicate (n + 1) ".." ++ tail⟩ =
      "../" ++ Text.join "/" (List.replicate n ".." ++ tail) := by
    rw [Parts.written, List.replicate_succ, List.cons_append,
      Text.join_cons (List.append_ne_nil_of_right_ne_nil _ h.ne_nil)]
    exact String.empty_append
  have hclimbed : ∀ c ∈ dirs ++ stepsUp steps, IsPlain c := fun c hc =>
    (List.mem_append.1 hc).elim (hfront c) (isPlain_of_mem_stepsUp c)
  have habove : Text.startsWith "../"
      (canonical (Parts.written ⟨.relative, dirs ++ stepsUp steps ++ tail⟩)) = true := by
    rw [canonical_front hclimbed h, hread, Parts.collapsed, hclimb, hwritten]
    exact Text.startsWith_iff.2 ⟨_, rfl⟩
  refine if_neg fun hfile => ?_
  have hmem : canonical (Parts.written ⟨.relative, dirs ++ stepsUp steps ++ tail⟩) ∈
      ExtTreeSet.ofList known := ExtTreeSet.contains_iff_mem.1 hfile
  rw [ExtTreeSet.mem_ofList, List.contains_iff_mem] at hmem
  rw [hknown _ hmem] at habove
  cases habove

/-- **Dots and steps up agree as far as there is something to go back to.**  A file is
imported from a canonical path.  Either the path has a root, or there are no more steps
up than directories with a name above the importing file; and if as many, the first
directory keeps its name without the blanks at its beginning.  Then the name behind dots
leads to what the path with `../` leads to: to the file of that name, or else to the one
in the directory of that name.  With more steps, a path with `../` leads nowhere from a
relative path, unless the project has files above its top. -/
theorem resolve?_of_relative_name {known packageNames : List String} {path : String}
    {steps : Nat} {names : List String} (hnames : names ≠ []) (h : ∀ c ∈ names, IsIdentifier c) :
    let r := Resolver.ofFiles known packageNames
    let source := canonical path
    let directory := (Parts.ofPath source).parent
    (directory.root ≠ .relative ∨ steps < named directory.names ∨
        steps = named directory.names ∧ StartsPlainly directory.names →
      r.resolve? (dottedImport steps names) source =
        (r.resolve? (slashedImport steps names ".py") source).or
          (r.resolve? (slashedImport steps names "/__init__.py") source)) ∧
    (directory.root = .relative → StartsPlainly directory.names →
      named directory.names < steps →
      (∀ file ∈ known, Text.startsWith "../" file = false) →
      r.resolve? (slashedImport steps names ".py") source = none ∧
      r.resolve? (slashedImport steps names "/__init__.py") source = none) := by
  intro r source directory
  obtain ⟨p, hp, hwritten⟩ := exists_written path
  obtain ⟨init, last, hsplit⟩ := (List.eq_nil_or_concat names).resolve_left hnames
  rw [List.concat_eq_append] at hsplit
  have hsource : source = p.written := hwritten
  have hdirectory : directory = p.parent := by
    rw [show directory = (Parts.ofPath source).parent from rfl, hsource,
      Parts.ofPath_written hp.writable fun hc => (hp.normal.ne_dot hc).2 rfl]
  have hnormal : Normal p.root p.parent.names := by
    rw [Parts.parent, List.dropLast_eq_take]
    exact hp.normal.take _
  have hfront : ∀ c ∈ p.parent.names, IsPlain c := fun c hc =>
    hp.plain c ((List.dropLast_sublist p.names).mem hc)
  -- The two files that the name can mean.
  have hfile := isEnding_file (hsplit ▸ h)
  have hinside := isEnding_inside h
  have hfilePath : Text.join "/" names ++ ".py" = Text.join "/" (init ++ [last ++ ".py"]) := by
    rw [hsplit, Text.join_concat_append]
  have hinsidePath : Text.join "/" names ++ "/__init__.py" =
      Text.join "/" (names ++ ["__init__.py"]) := by
    rw [Text.join_concat hnames, String.append_assoc]
    rfl
  rw [hsource, hdirectory, resolve?_slashedImport r hp steps hfile hfilePath,
    resolve?_slashedImport r hp steps hinside hinsidePath]
  constructor
  · intro hsteps
    have hown : Parts.written ⟨p.root, p.parent.names.take (p.parent.names.length - steps) ++
        names⟩ ++ ".py" = Parts.written ⟨p.root,
          p.parent.names.take (p.parent.names.length - steps) ++ (init ++ [last ++ ".py"])⟩ := by
      rw [hsplit, Parts.written, Parts.written, ← List.append_assoc, ← List.append_assoc,
        String.append_assoc, Text.join_concat_append]
    rw [resolve?_dottedImport h hnames, relative?_dottedImport h hnames steps r hp, hown,
      file?_climb r hnormal hfront hfile hsteps, file?_climb r hnormal hfront hinside hsteps]
  · intro hroot hfirst hsteps hknown
    rw [show p.root = .relative from hroot] at hnormal ⊢
    exact ⟨file?_climb_above hnormal hfront hfile hfirst hsteps hknown,
      file?_climb_above hnormal hfront hinside hfirst hsteps hknown⟩

/-- One step up leads to a directory, and four steps lead out of the project. -/
theorem resolve?_of_relative_name_of_package :
    let r := Resolver.ofFiles ["pkg/core/io/__init__.py", "core/io.py"] []
    let source := canonical "pkg/sub/a.py"
    let directory := (Parts.ofPath source).parent
    let names := ["core", "io"]
    (names ≠ [] ∧ (∀ c ∈ names, IsIdentifier c) ∧ 1 < named directory.names ∧
      directory.root = .relative ∧ StartsPlainly directory.names ∧ named directory.names < 4) ∧
    r.resolve? "..core.io" source =
      (r.resolve? "./../core/io.py" source).or (r.resolve? "./../core/io/__init__.py" source) ∧
    r.resolve? "..core.io" source = some "pkg/core/io/__init__.py" ∧
    r.resolve? "./../../../../core/io.py" source = none := by
  intro r source directory names
  have hnames : names ≠ [] := by decide
  have hidentifiers : ∀ c ∈ names, IsIdentifier c := by decide +kernel
  have hone : 1 < named directory.names := by decide +kernel
  have hroot : directory.root = .relative := by decide +kernel
  have hfirst : StartsPlainly directory.names := by decide +kernel
  have hfour : named directory.names < 4 := by decide +kernel
  have hknown : ∀ file ∈ ["pkg/core/io/__init__.py", "core/io.py"],
      Text.startsWith "../" file = false := by decide +kernel
  have hdotted : dottedImport 1 names = "..core.io" := by decide +kernel
  have hfile : slashedImport 1 names ".py" = "./../core/io.py" := by decide +kernel
  have hinside : slashedImport 1 names "/__init__.py" = "./../core/io/__init__.py" := by
    decide +kernel
  have habove : slashedImport 4 names ".py" = "./../../../../core/io.py" := by decide +kernel
  have hagree : r.resolve? (dottedImport 1 names) source =
      (r.resolve? (slashedImport 1 names ".py") source).or
        (r.resolve? (slashedImport 1 names "/__init__.py") source) :=
    (resolve?_of_relative_name hnames hidentifiers).1 (Or.inr (Or.inl hone))
  have hout : r.resolve? (slashedImport 4 names ".py") source = none ∧
      r.resolve? (slashedImport 4 names "/__init__.py") source = none :=
    (resolve?_of_relative_name hnames hidentifiers).2 hroot hfirst hfour hknown
  rw [hdotted, hfile, hinside] at hagree
  rw [habove] at hout
  refine ⟨⟨hnames, hidentifiers, hone, hroot, hfirst, hfour⟩, hagree, ?_, hout.1⟩
  decide +kernel

/-- From a file at the top, two dots lead to a file beside it, and the path with `../`
leads nowhere, or to a file above the top.  Two dots in one directory, or below a root,
are not too many.  Where the directory is a blank, the path alone is read as one with a
root. -/
theorem exists_notations_apart :
    (let r := Resolver.ofFiles ["a.py", "x.py"] [];
      canonical "a.py" = "a.py" ∧ r.resolve? "..x" "a.py" = some "x.py" ∧
      r.resolve? "./../x.py" "a.py" = none ∧ r.resolve? "./../x/__init__.py" "a.py" = none) ∧
    (let r := Resolver.ofFiles ["a.py", "../x.py"] [];
      r.resolve? "./../x.py" "a.py" = some "../x.py") ∧
    (let r := Resolver.ofFiles ["pkg/a.py", "x.py"] [];
      canonical "pkg/a.py" = "pkg/a.py" ∧ r.resolve? "..x" "pkg/a.py" = some "x.py" ∧
      r.resolve? "./../x.py" "pkg/a.py" = some "x.py") ∧
    (let r := Resolver.ofFiles ["/a.py", "/x.py"] [];
      canonical "/a.py" = "/a.py" ∧ r.resolve? "..x" "/a.py" = some "/x.py" ∧
      r.resolve? "./../x.py" "/a.py" = some "/x.py") ∧
    (let r := Resolver.ofFiles ["x.py"] [];
      canonical "./ /a.py" = " /a.py" ∧ r.resolve? "..x" " /a.py" = some "x.py" ∧
      r.resolve? "./../x.py" " /a.py" = none ∧
      r.resolve? "./../x/__init__.py" " /a.py" = none) := by
  decide +kernel

end LayerLint.Import
