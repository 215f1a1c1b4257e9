import LayerLint.Text.Blank
import LayerLint.Text.Split

/-!
# Canonical paths

A module is known by the canonical form of its path: blanks at the ends go,
backslashes become slashes, empty components and `.` go, and `..` takes back
the component before it.  A path may start at the root; one leading slash and
more than two mean the same root, exactly two are a root of their own.  A
relative path may climb above its start, so leading `..` stay; above a root
there is nothing, so there they go.

The components are folded over a stack, last component on top, so that each
rule is one line of `collapseStep`.

## Main results

* `collapse_eq_self`: components that are already in normal form stay as they are.
* `normal_collapse`: what `collapse` yields is in normal form.
-/

namespace LayerLint.Path

/-- Where a path starts. -/
inductive Root where
  | relative
  | single
  | double
  deriving DecidableEq, Repr

namespace Root

def text : Root → String
  | relative => ""
  | single => "/"
  | double => "//"

/-- The root that a path's leading slashes name. -/
def ofPath (s : String) : Root :=
  match (s.toList.takeWhile (· = '/')).length with
  | 0 => relative
  | 2 => double
  | _ => single

end Root

/-! ## Components -/

/-- One more component on the stack of those kept so far, last one on top. -/
def collapseStep (root : Root) (stack : List String) (component : String) : List String :=
  if component = "" ∨ component = "." then stack
  else if component ≠ ".." then component :: stack
  else
    match stack with
    | [] => if root = .relative then [".."] else []
    | top :: below => if top = ".." then ".." :: stack else below

def collapse (root : Root) (components : List String) : List String :=
  (components.foldl (collapseStep root) []).reverse

/-- A component that names something below the one before it. -/
def IsName (component : String) : Prop := component ≠ "" ∧ component ≠ "." ∧ component ≠ ".."

/-- Names, behind as many `..` as the root allows. -/
def Normal (root : Root) (components : List String) : Prop :=
  ∃ n names, components = List.replicate n ".." ++ names ∧ (∀ c ∈ names, IsName c) ∧
    (root ≠ .relative → n = 0)

theorem collapseStep_name {root : Root} {stack : List String} {c : String}
    (h : IsName c) : collapseStep root stack c = c :: stack := by
  obtain ⟨h₁, h₂, h₃⟩ := h
  simp [collapseStep, h₁, h₂, h₃]

theorem foldl_collapseStep_names {root : Root} (names : List String)
    (h : ∀ c ∈ names, IsName c) (stack : List String) :
    names.foldl (collapseStep root) stack = names.reverse ++ stack := by
  induction names generalizing stack with
  | nil => rfl
  | cons c rest ih =>
    rw [List.foldl_cons, collapseStep_name (h c (by simp)), ih fun d hd => h d (by simp [hd])]
    simp

theorem foldl_collapseStep_up (n k : Nat) :
    (List.replicate n "..").foldl (collapseStep .relative) (List.replicate k "..") =
      List.replicate (n + k) ".." := by
  induction n generalizing k with
  | zero => simp
  | succ n ih =>
    have h : collapseStep .relative (List.replicate k "..") ".." =
        List.replicate (k + 1) ".." := by
      cases k <;> simp [collapseStep, List.replicate_succ]
    rw [List.replicate_succ, List.foldl_cons, h, ih]
    congr 1
    omega

/-- Components in normal form are kept. -/
theorem collapse_eq_self {root : Root} {components : List String} (h : Normal root components) :
    collapse root components = components := by
  obtain ⟨n, names, rfl, hnames, hn⟩ := h
  cases root with
  | relative =>
    rw [collapse, List.foldl_append, show ([] : List String) = List.replicate 0 ".." from rfl,
      foldl_collapseStep_up, foldl_collapseStep_names names hnames]
    simp
  | single =>
    obtain rfl := hn (by decide)
    simp [collapse, foldl_collapseStep_names names hnames]
  | double =>
    obtain rfl := hn (by decide)
    simp [collapse, foldl_collapseStep_names names hnames]

/-- The stack read from the bottom is in normal form. -/
private theorem normal_collapseStep {root : Root} {stack : List String} (c : String)
    (h : Normal root stack.reverse) : Normal root (collapseStep root stack c).reverse := by
  unfold collapseStep
  split
  · exact h
  · next hc =>
    rw [not_or] at hc
    split
    · next hd =>
      obtain ⟨n, names, hs, hnames, hn⟩ := h
      refine ⟨n, names ++ [c], by simp [hs], ?_, hn⟩
      intro d hd'
      rcases List.mem_append.1 hd' with hm | hm
      · exact hnames d hm
      · rw [List.mem_singleton.1 hm]
        exact ⟨hc.1, hc.2, hd⟩
    · split
      · split
        · next hr => exact ⟨1, [], rfl, by simp, fun h => absurd hr h⟩
        · exact ⟨0, [], rfl, by simp, fun _ => rfl⟩
      · next top below =>
        obtain ⟨n, names, hs, hnames, hn⟩ := h
        split
        · next ht =>
          subst ht
          have hnil : names = [] := by
            rcases List.eq_nil_or_concat names with h' | ⟨init, last, h'⟩
            · exact h'
            · exfalso
              have hlast := congrArg List.getLast? hs
              simp [h'] at hlast
              exact (hnames last (by simp [h'])).2.2 hlast.symm
          subst hnil
          have hz : n ≠ 0 := by
            rintro rfl
            simp at hs
          refine ⟨n + 1, [], ?_, by simp, fun hr => absurd (hn hr) hz⟩
          rw [List.reverse_cons, hs, List.append_nil, List.append_nil, List.replicate_succ']
        · next ht =>
          rcases List.eq_nil_or_concat names with h' | ⟨init, last, h'⟩
          · exfalso
            subst h'
            cases n with
            | zero => simp at hs
            | succ n =>
              rw [List.append_nil, List.replicate_succ', List.reverse_cons] at hs
              exact ht (by simpa using (List.append_inj' hs rfl).2)
          · subst h'
            refine ⟨n, init, ?_, fun d hd => hnames d (by simp [hd]), hn⟩
            rw [List.reverse_cons, List.concat_eq_append, ← List.append_assoc] at hs
            exact (List.append_inj' hs rfl).1

theorem normal_collapse (root : Root) (components : List String) :
    Normal root (collapse root components) := by
  suffices h : ∀ stack : List String, Normal root stack.reverse →
      Normal root (components.foldl (collapseStep root) stack).reverse from
    h [] ⟨0, [], rfl, by simp, fun _ => rfl⟩
  induction components with
  | nil => exact fun _ h => h
  | cons c rest ih => exact fun stack h => ih _ (normal_collapseStep c h)

/-! ## Paths -/

/-- The path with slashes only. -/
def slashed (s : String) : String := Text.replaceChar '\\' '/' s

/-- The path in normal form; a path that leads nowhere is empty. -/
def normalize (s : String) : String :=
  let root := Root.ofPath s
  root.text ++ Text.join "/" (collapse root (Text.split '/' s))

/-- The canonical form of a path as somebody wrote it. -/
def canonical (s : String) : String := normalize (slashed (Text.strip s))

/-- The part of a path in front of its last slash, without the slashes at its
end unless it is nothing but slashes. -/
def directory (s : String) : String :=
  let head := s.toList.reverse.dropWhile (· ≠ '/')
  let trimmed := head.dropWhile (· = '/')
  String.ofList (if trimmed.isEmpty then head.reverse else trimmed.reverse)

/-- A path taken relative to a directory. -/
def within (base s : String) : String :=
  if Text.startsWith "/" s then s
  else if base = "" ∨ Text.endsWith "/" base then base ++ s
  else base ++ "/" ++ s

example : canonical " .\\lib//a/./b/../c.dart " = "lib/a/c.dart" := by decide +kernel
example : canonical "a/../.." = ".." ∧ canonical "///a/../.." = "/" := by decide +kernel

end LayerLint.Path
