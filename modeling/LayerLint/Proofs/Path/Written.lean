import LayerLint.Path.Parts
import LayerLint.Proofs.Text.Blank
import LayerLint.Proofs.Text.Pieces

/-!
# Paths written out

A path is a root and names, and it is written as the root and the names with
slashes between them.  As long as no name is empty or has a slash, everything that
is done to the written path can be said of its parts: reading it gives them back,
its directory leaves the last name out, what is taken relative to it stands behind
its names, and its canonical form collapses them.

Blanks at the beginning are the one thing that does not fit: they are part of the
first name as it is written, and of nothing when the path is brought into canonical
form.  What is collapsed are the parts as they are read without these blanks, and
there the first name can be another one, or none at all.

Steps up in front of names take back as many names before them.  Below a root of
its own that may be all of them, and there it ends.  A relative path goes on to
climb, and shows it by leading steps up.

## Main results

* `ofPath_written`, `directory_written`, `within_written`, `canonical_written`: what is done to
  a written path is done to its parts.
* `exists_written`: a canonical path is the written form of parts in normal form.
* `collapse_climb`, `collapse_climb_above`: what becomes of names behind which steps up follow.
* `read_climb`: the same of names as they are read.
-/

namespace LayerLint

/-! ## Single characters and pieces -/

namespace Text

variable {s t : String}

theorem replaceChar_eq_self {old new : Char} (h : old ∉ s.toList) :
    replaceChar old new s = s := by
  have hmap : s.toList.map (fun c => if c = old then new else c) = s.toList.map id :=
    List.map_congr_left fun c hc => if_neg fun heq : c = old => h (heq ▸ hc)
  rw [replaceChar, hmap, List.map_id, String.ofList_toList]

theorem replaceChar_append (old new : Char) (s t : String) :
    replaceChar old new (s ++ t) = replaceChar old new s ++ replaceChar old new t := by
  rw [replaceChar, replaceChar, replaceChar, String.toList_append, List.map_append,
    String.ofList_append]

/-- Writing another mark between the pieces. -/
theorem replaceChar_join {old new : Char} {parts : List String}
    (h : ∀ part ∈ parts, old ∉ part.toList) :
    replaceChar old new (join (String.singleton old) parts) =
      join (String.singleton new) parts := by
  have hmark : replaceChar old new (String.singleton old) = String.singleton new := by
    simp [replaceChar]
  induction parts with
  | nil => rfl
  | cons first more ih =>
      have hfirst : replaceChar old new first = first :=
        replaceChar_eq_self (h first List.mem_cons_self)
      by_cases hmore : more = []
      · subst hmore
        rw [join_singleton, join_singleton, hfirst]
      · rw [join_cons hmore, join_cons hmore, replaceChar_append, replaceChar_append, hfirst, hmark,
          ih fun part hpart => h part (List.mem_cons_of_mem first hpart)]

theorem startsWith_singleton_iff {c : Char} :
    startsWith (String.singleton c) s = true ↔ s.toList.head? = some c := by
  rw [startsWith, String.toList_singleton, List.isPrefixOf_iff_prefix]
  cases s.toList with
  | nil => simp
  | cons d rest =>
      rw [List.singleton_prefix_cons_iff, List.head?_cons, Option.some.injEq]
      exact eq_comm

theorem endsWith_singleton_iff {c : Char} :
    endsWith (String.singleton c) s = true ↔ s.toList.getLast? = some c := by
  rw [endsWith, String.toList_singleton, List.isSuffixOf_iff_suffix, List.getLast?_eq_some_iff]
  exact ⟨fun ⟨front, h⟩ => ⟨front, h.symm⟩, fun ⟨front, h⟩ => ⟨front, h.symm⟩⟩

/-- A written text starts like its first piece. -/
theorem head?_join {mark : String} {parts : List String} (h : ∀ part ∈ parts, part ≠ "") :
    (join mark parts).toList.head? = parts.head?.bind fun first => first.toList.head? := by
  cases parts with
  | nil => rfl
  | cons first more =>
      obtain ⟨rest, hrest⟩ := exists_join_cons mark first more
      have hfirst : first.toList ≠ [] := fun hnil =>
        h first List.mem_cons_self (String.toList_eq_nil_iff.1 hnil)
      rw [hrest, String.toList_append, List.head?_append,
        Option.or_of_isSome (List.isSome_head?.2 hfirst)]
      rfl

/-- A written text ends like its last piece. -/
theorem getLast?_join {mark : String} {parts : List String} (h : ∀ part ∈ parts, part ≠ "") :
    (join mark parts).toList.getLast? = parts.getLast?.bind fun last => last.toList.getLast? := by
  rcases List.eq_nil_or_concat parts with rfl | ⟨init, last, rfl⟩
  · rfl
  · rw [List.concat_eq_append] at h ⊢
    obtain ⟨front, hfront⟩ := exists_join_concat mark last init
    have hlast : last.toList ≠ [] := fun hnil =>
      h last List.mem_append_cons_self (String.toList_eq_nil_iff.1 hnil)
    rw [hfront, String.toList_append, List.getLast?_append,
      Option.or_of_isSome (Option.isSome_iff_ne_none.2 (mt List.getLast?_eq_none_iff.1 hlast)),
      List.getLast?_concat]
    rfl

end Text

namespace Path

/-! ## Names -/

/-- A component that can be written: it is not empty and has no slash. -/
def Writable (component : String) : Prop := component ≠ "" ∧ '/' ∉ component.toList

/-- A component that can be written and keeps its form when backslashes become slashes. -/
def IsPlain (component : String) : Prop := Writable component ∧ '\\' ∉ component.toList

variable {names more : List String}

theorem head?_join_ne_slash (h : ∀ c ∈ names, Writable c) :
    (Text.join "/" names).toList.head? ≠ some '/' := by
  rw [Text.head?_join fun c hc => (h c hc).1]
  intro hslash
  obtain ⟨first, hfirst, hhead⟩ := Option.bind_eq_some_iff.1 hslash
  exact (h first (List.mem_of_head? hfirst)).2 (List.mem_of_head? hhead)

theorem getLast?_join_ne_slash (h : ∀ c ∈ names, Writable c) :
    (Text.join "/" names).toList.getLast? ≠ some '/' := by
  rw [Text.getLast?_join fun c hc => (h c hc).1]
  intro hslash
  obtain ⟨last, hlast, hend⟩ := Option.bind_eq_some_iff.1 hslash
  exact (h last (List.mem_of_getLast? hlast)).2 (List.mem_of_getLast? hend)

theorem join_ne_empty (h : ∀ c ∈ names, Writable c) (hnames : names ≠ []) :
    Text.join "/" names ≠ "" := by
  cases names with
  | nil => exact absurd rfl hnames
  | cons first rest =>
      obtain ⟨more, hmore⟩ := Text.exists_join_cons "/" first rest
      rw [hmore]
      intro hempty
      rw [String.append_eq_empty_iff] at hempty
      exact (h first List.mem_cons_self).1 hempty.1

/-! ## Written paths -/

theorem Root.ofPath_append {root : Root} {s : String} (h : s.toList.head? ≠ some '/') :
    Root.ofPath (root.text ++ s) = root := by
  have hnone : s.toList.takeWhile (· = '/') = [] := by
    cases hs : s.toList with
    | nil => rfl
    | cons c rest =>
        rw [hs, List.head?_cons, Ne, Option.some.injEq] at h
        rw [List.takeWhile_cons_of_neg (by simpa using h)]
  rw [Root.ofPath, String.toList_append]
  cases root with
  | relative => simp [Root.text, hnone]
  | single => simp [Root.text, hnone]
  | double => simp [Root.text, hnone]

/-- The directory is what stands in front of the last slash. -/
theorem directory_append_slash {front last : String} (hlast : '/' ∉ last.toList)
    (hfront : front ≠ "") (hend : front.toList.getLast? ≠ some '/') :
    directory (front ++ "/" ++ last) = front := by
  have hskip : ∀ c ∈ last.toList.reverse, decide (c ≠ '/') = true := fun c hc =>
    decide_eq_true fun heq : c = '/' => hlast (heq ▸ List.mem_reverse.1 hc)
  have hreverse : (front ++ "/" ++ last).toList.reverse =
      last.toList.reverse ++ '/' :: front.toList.reverse := by
    have hslash : "/".toList = ['/'] := by decide
    simp [String.toList_append, hslash]
  have hkeep : front.toList.reverse.dropWhile (· = '/') = front.toList.reverse := by
    rw [← List.head?_reverse] at hend
    cases hcs : front.toList.reverse with
    | nil => rfl
    | cons c rest =>
        rw [hcs, List.head?_cons, Ne, Option.some.injEq] at hend
        exact List.dropWhile_cons_of_neg (by simpa using hend)
  have hne : front.toList.reverse ≠ [] := fun hnil =>
    hfront (String.toList_eq_nil_iff.1 (List.reverse_eq_nil_iff.1 hnil))
  unfold directory
  rw [hreverse, List.dropWhile_append_of_pos hskip, List.dropWhile_cons_of_neg (by decide)]
  dsimp only
  rw [List.dropWhile_cons_of_pos (by decide), hkeep, if_neg (by simpa using hne),
    List.reverse_reverse, String.ofList_toList]

/-- Slashes alone are a directory. -/
theorem directory_root_append {root : Root} {last : String} (hlast : '/' ∉ last.toList) :
    directory (root.text ++ last) = root.text := by
  have hskip : ∀ c ∈ last.toList.reverse, decide (c ≠ '/') = true := fun c hc =>
    decide_eq_true fun heq : c = '/' => hlast (heq ▸ List.mem_reverse.1 hc)
  unfold directory
  rw [String.toList_append, List.reverse_append, List.dropWhile_append_of_pos hskip]
  cases root <;> decide

theorem foldl_collapseStep_empty (root : Root) (n : Nat) (stack : List String) :
    (List.replicate n "").foldl (collapseStep root) stack = stack := by
  induction n with
  | zero => rfl
  | succ n ih =>
      rw [List.replicate_succ, List.foldl_cons]
      exact ih

namespace Parts

/-- The path as it is written: nothing when there is neither a root nor a name. -/
def written (p : Parts) : String := p.root.text ++ Text.join "/" p.names

variable {p : Parts}

/-- Cutting a written path gives its names, behind empty components for the slashes of
its root. -/
theorem exists_split_written (h : ∀ c ∈ p.names, Writable c) :
    ∃ n, Text.split '/' p.written = List.replicate n "" ++ p.names := by
  obtain ⟨root, names⟩ := p
  by_cases hnames : names = []
  · subst hnames
    cases root with
    | relative => exact ⟨1, by decide⟩
    | single => exact ⟨2, by decide⟩
    | double => exact ⟨3, by decide⟩
  · have hjoin : Text.split '/' (Text.join "/" names) = names :=
      Text.split_join hnames fun c hc => (h c hc).2
    have hslash (s : String) : Text.split '/' ("/" ++ s) = [""] ++ Text.split '/' s :=
      Text.split_append '/' "" s
    cases root with
    | relative => exact ⟨0, hjoin⟩
    | single => exact ⟨1, (hslash _).trans (congrArg _ hjoin)⟩
    | double =>
        refine ⟨2, ?_⟩
        rw [written]
        change Text.split '/' ("/" ++ "/" ++ Text.join "/" names) = _
        rw [String.append_assoc, hslash, hslash, hjoin]
        rfl

theorem root_written (h : ∀ c ∈ p.names, Writable c) : Root.ofPath p.written = p.root :=
  Root.ofPath_append (head?_join_ne_slash h)

/-- Reading a written path gives its parts back. -/
theorem ofPath_written (h : ∀ c ∈ p.names, Writable c) (hdot : "." ∉ p.names) :
    ofPath p.written = p := by
  obtain ⟨n, hsplit⟩ := exists_split_written h
  have hempty : (List.replicate n "").filter (fun c => c ≠ "" && c ≠ ".") = [] :=
    List.filter_eq_nil_iff.2 fun c hc => by rw [List.eq_of_mem_replicate hc]; decide
  have hnames : p.names.filter (fun c => c ≠ "" && c ≠ ".") = p.names := by
    refine List.filter_eq_self.2 fun c hc => ?_
    have hne : c ≠ "." := fun heq => hdot (heq ▸ hc)
    simp [(h c hc).1, hne]
  rw [ofPath, root_written h, hsplit, List.filter_append, hempty, hnames, List.nil_append]

/-- The path with its names collapsed. -/
def collapsed (p : Parts) : Parts := ⟨p.root, collapse p.root p.names⟩

/-- The normal form of a written path collapses its names. -/
theorem normalize_written (h : ∀ c ∈ p.names, Writable c) :
    normalize p.written = p.collapsed.written := by
  obtain ⟨n, hsplit⟩ := exists_split_written h
  rw [normalize, root_written h, hsplit, collapse, List.foldl_append, foldl_collapseStep_empty]
  rfl

theorem written_ne_empty (h : ∀ c ∈ p.names, Writable c) (hne : p.names ≠ []) :
    p.written ≠ "" := fun hempty =>
  join_ne_empty h hne (String.append_eq_empty_iff.1 hempty).2

/-- A written path with names ends like the names. -/
theorem getLast?_written (h : ∀ c ∈ p.names, Writable c) (hne : p.names ≠ []) :
    p.written.toList.getLast? = (Text.join "/" p.names).toList.getLast? := by
  have hjoin : (Text.join "/" p.names).toList ≠ [] := fun hnil =>
    join_ne_empty h hne (String.toList_eq_nil_iff.1 hnil)
  rw [written, String.toList_append, List.getLast?_append,
    Option.or_of_isSome (Option.isSome_iff_ne_none.2 (mt List.getLast?_eq_none_iff.1 hjoin))]

theorem getLast?_written_ne_slash (h : ∀ c ∈ p.names, Writable c) (hne : p.names ≠ []) :
    p.written.toList.getLast? ≠ some '/' := by
  rw [getLast?_written h hne]
  exact getLast?_join_ne_slash h

/-- The directory of a written path leaves its last name out. -/
theorem directory_written (h : ∀ c ∈ p.names, Writable c) :
    directory p.written = p.parent.written := by
  obtain ⟨root, names⟩ := p
  rcases List.eq_nil_or_concat names with rfl | ⟨init, last, rfl⟩
  · cases root <;> decide
  · rw [List.concat_eq_append] at h ⊢
    have hlast := (h last List.mem_append_cons_self).2
    have hinit : ∀ c ∈ init, Writable c := fun c hc => h c (List.mem_append_left _ hc)
    rw [written, written, parent, List.dropLast_concat]
    by_cases hnil : init = []
    · subst hnil
      rw [List.nil_append, Text.join_singleton]
      exact (directory_root_append hlast).trans String.append_empty.symm
    · rw [Text.join_concat hnil, ← String.append_assoc, ← String.append_assoc]
      exact directory_append_slash hlast (written_ne_empty (p := ⟨root, init⟩) hinit hnil)
        (getLast?_written_ne_slash (p := ⟨root, init⟩) hinit hnil)

/-- What is taken relative to a written path stands behind its names. -/
theorem within_written (h : ∀ c ∈ p.names, Writable c) {more : List String}
    (hmore : ∀ c ∈ more, Writable c) (hne : more ≠ []) :
    within p.written (Text.join "/" more) = written ⟨p.root, p.names ++ more⟩ := by
  have hrelative : ¬Text.startsWith "/" (Text.join "/" more) = true := fun hslash =>
    head?_join_ne_slash hmore (Text.startsWith_singleton_iff.1 hslash)
  rw [within, if_neg hrelative]
  by_cases hnil : p.names = []
  · -- Nothing but a root needs no slash behind it.
    have hroot : p.written = p.root.text := by
      rw [written, hnil]
      exact String.append_empty
    have hends : p.root.text = "" ∨ Text.endsWith "/" p.root.text = true := by
      cases p.root <;> decide
    rw [hroot, if_pos hends, written, hnil, List.nil_append]
  · have hends : ¬(p.written = "" ∨ Text.endsWith "/" p.written = true) := by
      rintro (hempty | hslash)
      · exact written_ne_empty h hnil hempty
      · exact getLast?_written_ne_slash h hnil (Text.endsWith_singleton_iff.1 hslash)
    rw [if_neg hends, written, written, Text.join_append hnil hne]
    simp only [String.append_assoc]

/-- The parts that are read when a path is written without the blanks at its beginning.
Where the first name is nothing but blanks, the slash behind it starts the path. -/
def read : Parts → Parts
  | ⟨.relative, first :: more⟩ =>
      if Text.stripFront first = "" then ⟨.single, more⟩
      else ⟨.relative, Text.stripFront first :: more⟩
  | p => p

theorem read_of_root (h : p.root ≠ .relative) : p.read = p := by
  obtain ⟨root, names⟩ := p
  cases root with
  | relative => exact absurd rfl h
  | single => rfl
  | double => rfl

/-- A first name that starts with no blank stays as it is. -/
theorem read_eq_self (h : ∀ first ∈ p.names.head?, first ≠ "" ∧
    ∀ c ∈ first.toList.head?, Text.isBlank c = false) : p.read = p := by
  obtain ⟨root, names⟩ := p
  by_cases hroot : root = .relative
  · subst hroot
    cases names with
    | nil => rfl
    | cons first more =>
        obtain ⟨hne, hfirst⟩ := h first rfl
        rw [read, Text.stripFront_eq_self hfirst, if_neg hne]
  · exact read_of_root hroot

/-- A step, to the same place or up, starts with no blank. -/
theorem dot_starts {step : String} (h : step.toList.head? = some '.') :
    step ≠ "" ∧ ∀ c ∈ step.toList.head?, Text.isBlank c = false := by
  refine ⟨?_, fun c hc => ?_⟩
  · rintro rfl
    cases h
  · obtain rfl : '.' = c := Option.some.inj (h.symm.trans hc)
    decide

/-- How a first name is read does not depend on the names behind it. -/
theorem exists_read_cons (first : String) :
    ∃ root front, ∀ more, read ⟨.relative, first :: more⟩ = ⟨root, front ++ more⟩ := by
  by_cases hne : Text.stripFront first = ""
  · exact ⟨.single, [], fun more => if_pos hne⟩
  · exact ⟨.relative, [Text.stripFront first], fun more => if_neg hne⟩

theorem strip_written (h : ∀ c ∈ p.names, Writable c)
    (hlast : ∀ c ∈ p.written.toList.getLast?, Text.isBlank c = false) :
    Text.strip p.written = p.read.written := by
  rw [Text.strip_eq_stripFront hlast]
  obtain ⟨root, names⟩ := p
  by_cases hroot : root = .relative
  · subst hroot
    cases names with
    | nil => decide
    | cons first more =>
        have hwritten (names : List String) :
            written ⟨.relative, names⟩ = Text.join "/" names := String.empty_append
        have hslash : ∀ c ∈ ("/" ++ Text.join "/" more).toList.head?, Text.isBlank c = false := by
          rintro c hc
          obtain rfl : '/' = c := by simpa [String.toList_append] using hc
          decide
        by_cases hmore : more = []
        · subst hmore
          rw [hwritten, Text.join_singleton] at hlast
          have hne := Text.stripFront_ne_empty (h first List.mem_cons_self).1 hlast
          rw [read, if_neg hne, hwritten, hwritten, Text.join_singleton, Text.join_singleton]
        · rw [hwritten, Text.join_cons hmore, String.append_assoc, Text.stripFront_append hslash,
            read]
          split
          · next hnone =>
            rw [hnone]
            exact String.empty_append
          · rw [hwritten, Text.join_cons hmore, String.append_assoc]
  · rw [read_of_root hroot]
    refine Text.stripFront_eq_self fun c hc => ?_
    have hslash : root.text.toList.head? = some '/' := by
      revert hroot
      cases root <;> decide
    rw [written, String.toList_append, List.head?_append, hslash, Option.some_or] at hc
    obtain rfl : '/' = c := Option.some.inj hc
    decide

theorem slashed_written (h : ∀ c ∈ p.names, IsPlain c) : slashed p.written = p.written := by
  refine Text.replaceChar_eq_self fun hmem => ?_
  rw [written, String.toList_append, List.mem_append] at hmem
  rcases hmem with hroot | hjoin
  · revert hroot
    cases p.root <;> decide
  · rcases Text.mem_toList_join hjoin with hslash | ⟨c, hc, hin⟩
    · revert hslash
      decide
    · exact (h c hc).2 hin

theorem isPlain_of_mem_read (h : ∀ c ∈ p.names, IsPlain c) : ∀ c ∈ p.read.names, IsPlain c := by
  obtain ⟨root, names⟩ := p
  by_cases hroot : root = .relative
  · subst hroot
    cases names with
    | nil => exact h
    | cons first more =>
        obtain ⟨⟨-, hslash⟩, hbackslash⟩ := h first List.mem_cons_self
        have hmore : ∀ c ∈ more, IsPlain c := fun c hc => h c (List.mem_cons_of_mem first hc)
        rw [read]
        split
        · exact hmore
        · next hne =>
          exact List.forall_mem_cons.2 ⟨⟨⟨hne, mt Text.mem_of_mem_stripFront hslash⟩,
            mt Text.mem_of_mem_stripFront hbackslash⟩, hmore⟩
  · rwa [read_of_root hroot]

/-- The canonical form of a written path without blanks at its end collapses the names
that are read. -/
theorem canonical_written (h : ∀ c ∈ p.names, IsPlain c)
    (hlast : ∀ c ∈ p.written.toList.getLast?, Text.isBlank c = false) :
    canonical p.written = p.read.collapsed.written := by
  have hread := isPlain_of_mem_read h
  rw [canonical, strip_written (fun c hc => (h c hc).1) hlast, slashed_written hread,
    normalize_written fun c hc => (hread c hc).1]

end Parts

/-! ## Canonical paths -/

/-- One step puts nothing on the stack but the component. -/
theorem mem_of_mem_collapseStep {root : Root} {stack : List String} {component c : String}
    (h : c ∈ collapseStep root stack component) : c ∈ stack ∨ c = component := by
  unfold collapseStep at h
  split at h
  · exact Or.inl h
  · split at h
    · exact (List.mem_cons.1 h).symm
    · next hup =>
      obtain rfl : component = ".." := Decidable.of_not_not hup
      split at h
      · split at h
        · exact Or.inr (List.mem_singleton.1 h)
        · exact Or.inl h
      · split at h
        · exact (List.mem_cons.1 h).symm
        · exact Or.inl (List.mem_cons_of_mem _ h)

theorem mem_of_mem_collapse {root : Root} {components : List String} {c : String}
    (h : c ∈ collapse root components) : c ∈ components := by
  suffices hs : ∀ stack : List String, c ∈ components.foldl (collapseStep root) stack →
      c ∈ stack ∨ c ∈ components by
    exact (hs [] (List.mem_reverse.1 h)).resolve_left List.not_mem_nil
  clear h
  induction components with
  | nil => exact fun _ h => Or.inl h
  | cons component rest ih =>
      intro stack h
      rcases ih _ h with h | h
      · rcases mem_of_mem_collapseStep h with h | rfl
        · exact Or.inl h
        · exact Or.inr List.mem_cons_self
      · exact Or.inr (List.mem_cons_of_mem component h)

theorem Normal.ne_dot {root : Root} {names : List String} (h : Normal root names) {c : String}
    (hc : c ∈ names) : c ≠ "" ∧ c ≠ "." := by
  obtain ⟨n, rest, rfl, hrest, -⟩ := h
  rcases List.mem_append.1 hc with hup | hname
  · rw [List.eq_of_mem_replicate hup]
    decide
  · exact ⟨(hrest c hname).1, (hrest c hname).2.1⟩

theorem Normal.take {root : Root} {names : List String} (h : Normal root names) (k : Nat) :
    Normal root (names.take k) := by
  obtain ⟨n, rest, rfl, hrest, hn⟩ := h
  refine ⟨min k n, rest.take (k - n), ?_, fun c hc => hrest c (List.mem_of_mem_take hc),
    fun hroot => ?_⟩
  · rw [List.take_append, List.take_replicate, List.length_replicate]
  · rw [hn hroot, Nat.min_zero]

/-- The parts of a canonical path. -/
structure Parts.IsCanonical (p : Parts) : Prop where
  normal : Normal p.root p.names
  plain : ∀ c ∈ p.names, IsPlain c

theorem Parts.IsCanonical.writable {p : Parts} (h : p.IsCanonical) : ∀ c ∈ p.names, Writable c :=
  fun c hc => (h.plain c hc).1

/-- A canonical path is the written form of such parts. -/
theorem exists_written (path : String) :
    ∃ p : Parts, p.IsCanonical ∧ canonical path = p.written := by
  have hplain : '\\' ∉ (slashed (Text.strip path)).toList := by
    rw [slashed, Text.replaceChar, String.toList_ofList, List.mem_map]
    rintro ⟨c, -, hc⟩
    by_cases hback : c = '\\'
    · rw [if_pos hback] at hc
      revert hc
      decide
    · exact hback ((if_neg hback).symm.trans hc)
  rw [canonical]
  generalize slashed (Text.strip path) = s at hplain ⊢
  have hnormal := normal_collapse (Root.ofPath s) (Text.split '/' s)
  refine ⟨⟨Root.ofPath s, collapse (Root.ofPath s) (Text.split '/' s)⟩, ?_, rfl⟩
  have hcut : ∀ c ∈ collapse (Root.ofPath s) (Text.split '/' s), c ∈ Text.split '/' s :=
    fun c hc => mem_of_mem_collapse hc
  exact ⟨hnormal, fun c hc => ⟨⟨(hnormal.ne_dot hc).1, Text.not_mem_of_mem_split (hcut c hc)⟩,
    fun hback => hplain (Text.mem_of_mem_split (hcut c hc) hback)⟩⟩

/-! ## Steps up -/

variable {root : Root} {top below dirs tail : List String} {k : Nat}

/-- A step to the same place, and then steps up. -/
def stepsUp (k : Nat) : List String := "." :: List.replicate k ".."

/-- Steps up take names off the stack. -/
theorem foldl_collapseStep_pop (htop : ∀ c ∈ top, IsName c) (hk : k ≤ top.length) :
    (List.replicate k "..").foldl (collapseStep root) (top ++ below) = top.drop k ++ below := by
  induction k generalizing top with
  | zero => rfl
  | succ k ih =>
      cases top with
      | nil => exact absurd hk (Nat.not_succ_le_zero k)
      | cons c rest =>
          have hc : c ≠ ".." := (htop c List.mem_cons_self).2.2
          have hstep : collapseStep root (c :: rest ++ below) ".." = rest ++ below := by
            simp [collapseStep, hc]
          rw [List.replicate_succ, List.foldl_cons, hstep,
            ih (fun d hd => htop d (List.mem_cons_of_mem c hd)) (Nat.le_of_succ_le_succ hk),
            List.drop_succ_cons]

/-- When all names are taken off, the other steps lead up from there. -/
theorem foldl_collapseStep_beyond (htop : ∀ c ∈ top, IsName c) (hk : top.length ≤ k) :
    (List.replicate k "..").foldl (collapseStep root) (top ++ below) =
      (List.replicate (k - top.length) "..").foldl (collapseStep root) below := by
  have hsplit : List.replicate k ".." =
      List.replicate top.length ".." ++ List.replicate (k - top.length) ".." := by
    rw [List.replicate_append_replicate, Nat.add_sub_cancel' hk]
  rw [hsplit, List.foldl_append, foldl_collapseStep_pop htop (Nat.le_refl _),
    List.drop_length, List.nil_append]

/-- Above a root of its own there is nothing. -/
theorem foldl_collapseStep_root (hroot : root ≠ .relative) (k : Nat) :
    (List.replicate k "..").foldl (collapseStep root) [] = [] := by
  induction k with
  | zero => rfl
  | succ k ih =>
      have hstep : collapseStep root [] ".." = [] := by
        simp [collapseStep, hroot]
      rw [List.replicate_succ, List.foldl_cons, hstep, ih]

/-- The number of directories that have a name. -/
def named (dirs : List String) : Nat := (dirs.filter (· ≠ "..")).length

theorem named_eq {n : Nat} {names : List String} (hnames : ∀ c ∈ names, IsName c) :
    named (List.replicate n ".." ++ names) = names.length := by
  have hups : (List.replicate n "..").filter (· ≠ "..") = [] :=
    List.filter_eq_nil_iff.2 fun c hc => by rw [List.eq_of_mem_replicate hc]; decide
  have hall : names.filter (· ≠ "..") = names :=
    List.filter_eq_self.2 fun c hc => decide_eq_true (hnames c hc).2.2
  rw [named, List.filter_append, hups, hall, List.nil_append]

theorem collapseStep_dot (stack : List String) : collapseStep root stack "." = stack := by
  simp [collapseStep]

/-- Names behind which steps up follow, on any stack. -/
theorem foldl_collapseStep_back (hnames : ∀ c ∈ names, IsName c) (hk : k ≤ names.length)
    (stack : List String) :
    (names ++ stepsUp k).foldl (collapseStep root) stack =
      (names.take (names.length - k)).foldl (collapseStep root) stack := by
  have hreversed : ∀ c ∈ names.reverse, IsName c := fun c hc => hnames c (List.mem_reverse.1 hc)
  have htake : ∀ c ∈ names.take (names.length - k), IsName c := fun c hc =>
    hnames c (List.mem_of_mem_take hc)
  rw [List.foldl_append, foldl_collapseStep_names names hnames, stepsUp, List.foldl_cons,
    collapseStep_dot, foldl_collapseStep_pop hreversed (by rwa [List.length_reverse]),
    List.drop_reverse, foldl_collapseStep_names _ htake]

/-- Steps up take back as many names, whatever stands in front of these. -/
theorem collapse_back (hnames : ∀ c ∈ names, IsName c) (hk : k ≤ names.length)
    (front tail : List String) :
    collapse root (front ++ names ++ stepsUp k ++ tail) =
      collapse root (front ++ names.take (names.length - k) ++ tail) := by
  have hfold (middle : List String) : collapse root (front ++ middle ++ tail) =
      (tail.foldl (collapseStep root) (middle.foldl (collapseStep root)
        (front.foldl (collapseStep root) []))).reverse := by
    rw [collapse, List.foldl_append, List.foldl_append]
  rw [List.append_assoc front, hfold, hfold, foldl_collapseStep_back hnames hk]

/-- Steps up take back as many directories, as far as these have names or there is a
root above them. -/
theorem collapse_climb (hdirs : Normal root dirs) (hk : root ≠ .relative ∨ k ≤ named dirs)
    (tail : List String) :
    collapse root (dirs ++ stepsUp k ++ tail) =
      collapse root (dirs.take (dirs.length - k) ++ tail) := by
  obtain ⟨n, names, rfl, hnames, hn⟩ := hdirs
  rw [named_eq hnames] at hk
  by_cases hle : k ≤ names.length
  · have hups : (List.replicate n "..").take (n + names.length - k) = List.replicate n ".." :=
      List.take_of_length_le (by rw [List.length_replicate]; omega)
    have hcount : n + names.length - k - n = names.length - k := by omega
    rw [collapse_back hnames hle, List.length_append, List.length_replicate, List.take_append, hups,
      List.length_replicate, hcount]
  · have hroot := hk.resolve_right hle
    obtain rfl : n = 0 := hn hroot
    have hreversed : ∀ c ∈ names.reverse, IsName c := fun c hc => hnames c (List.mem_reverse.1 hc)
    have hnone : names.length - k = 0 := by omega
    have htop : (names ++ stepsUp k).foldl (collapseStep root) [] = [] := by
      rw [List.foldl_append, foldl_collapseStep_names names hnames, stepsUp, List.foldl_cons,
        collapseStep_dot, foldl_collapseStep_beyond hreversed (by rw [List.length_reverse]; omega),
        foldl_collapseStep_root hroot]
    rw [List.replicate_zero, List.nil_append, hnone, collapse, List.foldl_append, htop]
    rfl

/-- A relative path climbs on. -/
theorem collapse_climb_above (hdirs : Normal .relative dirs) (htail : ∀ c ∈ tail, IsName c)
    (hk : named dirs < k) :
    ∃ n, collapse .relative (dirs ++ stepsUp k ++ tail) =
      List.replicate (n + 1) ".." ++ tail := by
  obtain ⟨n, names, rfl, hnames, -⟩ := hdirs
  have hreversed : ∀ c ∈ names.reverse, IsName c := fun c hc => hnames c (List.mem_reverse.1 hc)
  rw [named_eq hnames] at hk
  have hups : (List.replicate n "..").foldl (collapseStep .relative) [] = List.replicate n ".." :=
    foldl_collapseStep_up n 0
  refine ⟨k - names.length - 1 + n, ?_⟩
  rw [collapse, List.foldl_append, List.foldl_append, List.foldl_append, hups,
    foldl_collapseStep_names names hnames, stepsUp, List.foldl_cons, collapseStep_dot,
    foldl_collapseStep_beyond hreversed (by rw [List.length_reverse]; omega),
    foldl_collapseStep_up, foldl_collapseStep_names tail htail, List.reverse_append,
    List.reverse_reverse, List.reverse_replicate, List.length_reverse]
  congr 2
  omega

/-! ## Steps up in what is read -/

/-- A first directory that keeps a name without the blanks at its beginning. -/
def StartsPlainly (dirs : List String) : Prop :=
  ∀ first ∈ dirs.head?, first = ".." ∨ IsName (Text.stripFront first)

instance (component : String) : Decidable (IsName component) :=
  inferInstanceAs (Decidable (_ ∧ _))

instance (dirs : List String) : Decidable (StartsPlainly dirs) :=
  inferInstanceAs (Decidable (∀ first ∈ dirs.head?, first = ".." ∨ IsName (Text.stripFront first)))

/-- When all directories that have a name are left out, leading steps up are left. -/
theorem Normal.take_named (h : Normal root dirs) :
    dirs.take (dirs.length - named dirs) = List.replicate (dirs.length - named dirs) ".." := by
  obtain ⟨n, names, rfl, hnames, -⟩ := h
  have hcount : (List.replicate n ".." ++ names).length -
      named (List.replicate n ".." ++ names) = n := by
    rw [named_eq hnames, List.length_append, List.length_replicate, Nat.add_sub_cancel]
  rw [hcount, List.take_left' List.length_replicate]

/-- Fewer steps than there are directories with a name stay behind the first directory. -/
theorem Normal.exists_first (h : Normal root dirs) (hk : k < named dirs) :
    ∃ first ups names, dirs = first :: ups ++ names ∧ (∀ c ∈ names, IsName c) ∧
      k ≤ names.length := by
  obtain ⟨n, names, rfl, hnames, -⟩ := h
  rw [named_eq hnames] at hk
  rcases n with _ | n
  · obtain ⟨first, more, rfl⟩ := List.exists_cons_of_length_pos (Nat.zero_lt_of_lt hk)
    exact ⟨first, [], more, rfl, fun c hc => hnames c (List.mem_cons_of_mem first hc),
      Nat.le_of_lt_succ hk⟩
  · exact ⟨"..", List.replicate n "..", names, rfl, hnames, Nat.le_of_lt hk⟩

namespace Parts

/-- Such a first directory is read as one, and nothing else changes. -/
theorem exists_read_up (hdirs : Normal .relative dirs) (hfirst : StartsPlainly dirs) :
    ∃ dirs', Normal .relative dirs' ∧ named dirs' = named dirs ∧ dirs'.length = dirs.length ∧
      ∀ k tail, read ⟨.relative, dirs ++ stepsUp k ++ tail⟩ =
        ⟨.relative, dirs' ++ stepsUp k ++ tail⟩ := by
  obtain ⟨n, names, rfl, hnames, hroot⟩ := hdirs
  rcases n with _ | n
  · cases names with
    | nil =>
        refine ⟨[], ⟨0, [], rfl, hnames, hroot⟩, rfl, rfl, fun k tail => read_eq_self ?_⟩
        rintro first hhead
        obtain rfl : "." = first := Option.some.inj hhead
        exact dot_starts rfl
    | cons first more =>
        have hname : IsName (Text.stripFront first) :=
          (hfirst first rfl).resolve_left (hnames first List.mem_cons_self).2.2
        have hread : ∀ c ∈ Text.stripFront first :: more, IsName c :=
          List.forall_mem_cons.2 ⟨hname, (List.forall_mem_cons.1 hnames).2⟩
        refine ⟨Text.stripFront first :: more, ⟨0, _, rfl, hread, hroot⟩, ?_, rfl,
          fun k tail => if_neg hname.1⟩
        exact (named_eq (n := 0) hread).trans (named_eq (n := 0) hnames).symm
  · refine ⟨_, ⟨n + 1, names, rfl, hnames, hroot⟩, rfl, rfl, fun k tail => read_eq_self ?_⟩
    rintro first hhead
    obtain rfl : ".." = first := Option.some.inj hhead
    exact dot_starts rfl

/-- Where steps up take back directories, and a first one only if it keeps its name,
they come to the same as leaving these directories out. -/
theorem read_climb (hdirs : Normal root dirs)
    (hk : root ≠ .relative ∨ k < named dirs ∨ k = named dirs ∧ StartsPlainly dirs)
    (htail : ∀ first ∈ tail.head?, first ≠ "" ∧
      ∀ c ∈ first.toList.head?, Text.isBlank c = false) :
    (read ⟨root, dirs.take (dirs.length - k) ++ tail⟩).collapsed =
      (read ⟨root, dirs ++ stepsUp k ++ tail⟩).collapsed := by
  by_cases hroot : root = .relative
  · subst hroot
    rcases hk.resolve_left (not_not_intro rfl) with hk | ⟨rfl, hfirst⟩
    · -- The first directory is not taken back, so it does not matter how it is read.
      obtain ⟨first, ups, names, rfl, hnames, hle⟩ := hdirs.exists_first hk
      obtain ⟨root, front, hread⟩ := exists_read_cons first
      have hcount : (first :: ups ++ names).length - k - (first :: ups).length =
          names.length - k := by
        rw [List.length_append]
        omega
      have hups : (first :: ups).take ((first :: ups ++ names).length - k) = first :: ups :=
        List.take_of_length_le (by rw [List.length_append]; omega)
      have htake : (first :: ups ++ names).take ((first :: ups ++ names).length - k) ++ tail =
          first :: (ups ++ names.take (names.length - k) ++ tail) := by
        rw [List.take_append, hups, hcount]
        rfl
      calc (read ⟨.relative, (first :: ups ++ names).take
              ((first :: ups ++ names).length - k) ++ tail⟩).collapsed
        _ = collapsed ⟨root, front ++ ups ++ names.take (names.length - k) ++ tail⟩ := by
          rw [htake, hread]
          simp only [List.append_assoc]
        _ = collapsed ⟨root, front ++ ups ++ names ++ stepsUp k ++ tail⟩ := by
          rw [collapsed, collapsed, collapse_back hnames hle]
        _ = (read ⟨.relative, first :: (ups ++ names ++ stepsUp k ++ tail)⟩).collapsed := by
          rw [hread]
          simp only [List.append_assoc]
    · -- No directory with a name is left.
      obtain ⟨dirs', hdirs', hnamed, hlength, hread⟩ := exists_read_up hdirs hfirst
      have hclimb := collapse_climb hdirs' (Or.inr (Nat.le_of_eq hnamed.symm)) tail
      rw [← hnamed, hdirs'.take_named, hnamed, hlength] at hclimb
      have hups : read ⟨.relative, List.replicate (dirs.length - named dirs) ".." ++ tail⟩ =
          ⟨.relative, List.replicate (dirs.length - named dirs) ".." ++ tail⟩ := by
        refine read_eq_self fun first hhead => ?_
        rw [List.head?_append, List.head?_replicate] at hhead
        split at hhead
        · exact htail first hhead
        · obtain rfl : ".." = first := Option.some.inj hhead
          exact dot_starts rfl
      rw [hread, hdirs.take_named, hups, collapsed, collapsed, hclimb]
  · rw [read_of_root hroot, read_of_root hroot, collapsed, collapsed,
      collapse_climb hdirs (Or.inl hroot)]

end Parts

end Path

end LayerLint
