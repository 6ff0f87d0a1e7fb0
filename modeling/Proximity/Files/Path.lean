/-!
# Path texts

A path is written as text and read, as Unix reads it, as a list of components. A leading `/`
is the root directory, and a leading `.` followed by `/` or by nothing is the current
directory. After that come the pieces between slashes: an empty piece and `.` stand for
nothing, `..` is the parent directory and any other piece is a plain name.

`joinPath base part` is the path of `part` seen from `base`: a part that starts with `/`
replaces the base; otherwise the two are put one after the other, with a slash between them
unless the base is empty or already ends with one.

A plain name (`IsPlainName`) reads as a single name: it is not empty, holds no slash, and is
neither `.` nor `..`. Joined to any path, it adds exactly one component, itself
(`pathComponents_joinPath`).
-/

namespace Proximity

/-- A component of a path. -/
inductive PathComponent where
  | rootDir
  | curDir
  | parentDir
  | normal (name : String)
  deriving DecidableEq, Repr

/-- What a piece of a path between two slashes stands for; an empty piece and `.` stand for
nothing. -/
def pieceComponent (piece : List Char) : Option PathComponent :=
  if piece = [] ∨ piece = ['.'] then none
  else if piece = ['.', '.'] then some .parentDir
  else some (.normal (String.ofList piece))

/-- The component a path starts with, if any: the root, or the current directory. -/
def leadComponent : List Char → List PathComponent
  | '/' :: _ => [.rootDir]
  | ['.'] => [.curDir]
  | '.' :: '/' :: _ => [.curDir]
  | _ => []

/-- The components a path text is read as. -/
def pathComponents (p : String) : List PathComponent :=
  leadComponent p.toList ++ (p.toList.splitOn '/').filterMap pieceComponent

/-- The path of `part` seen from `base`. -/
def joinPath (base part : String) : String :=
  if part.toList.head? = some '/' then part
  else if base.toList.getLast? = none ∨ base.toList.getLast? = some '/' then base ++ part
  else base ++ "/" ++ part

/-- A name that reads as one plain component of a path. -/
def IsPlainName (s : String) : Prop :=
  s ≠ "" ∧ '/' ∉ s.toList ∧ s ≠ "." ∧ s ≠ ".."

theorem pieceComponent_nil : pieceComponent [] = none := rfl

theorem pieceComponent_plain {s : String} (h : IsPlainName s) :
    pieceComponent s.toList = some (.normal s) := by
  obtain ⟨hne, -, hdot, hdots⟩ := h
  have h1 : s.toList ≠ [] := by simpa using hne
  have h2 : s.toList ≠ ['.'] := fun e => hdot (String.ext (by simpa using e))
  have h3 : s.toList ≠ ['.', '.'] := fun e => hdots (String.ext (by simpa using e))
  simp [pieceComponent, h1, h2, h3]

theorem leadComponent_cons_other {x : Char} (l : List Char) (h1 : x ≠ '/') (h2 : x ≠ '.') :
    leadComponent (x :: l) = [] := by
  unfold leadComponent
  split <;> simp_all

theorem leadComponent_dot_cons_other {y : Char} (l : List Char) (h : y ≠ '/') :
    leadComponent ('.' :: y :: l) = [] := by
  unfold leadComponent
  split <;> simp_all

theorem leadComponent_append {b c : List Char} (hb : b ≠ [])
    (hdot : b = ['.'] → c.head? = some '/') : leadComponent (b ++ c) = leadComponent b := by
  obtain ⟨x, r, rfl⟩ := List.exists_cons_of_ne_nil hb
  by_cases hx : x = '/'
  · subst hx; rfl
  by_cases hx' : x = '.'
  · subst hx'
    cases r with
    | nil =>
      obtain ⟨r, rfl⟩ : ∃ r, c = '/' :: r := by
        cases c with
        | nil => simp at hdot
        | cons y r => simp at hdot; exact ⟨r, by rw [hdot]⟩
      rfl
    | cons y r =>
      by_cases hy : y = '/'
      · subst hy; rfl
      · simp [leadComponent_dot_cons_other _ hy]
  · simp [leadComponent_cons_other _ hx hx']

/-- A plain name starts neither at the root nor at the current directory. -/
theorem leadComponent_plain {s : String} (h : IsPlainName s) : leadComponent s.toList = [] := by
  obtain ⟨hne, hslash, hdot, -⟩ := h
  obtain ⟨x, r, hxr⟩ := List.exists_cons_of_ne_nil (by simpa using hne : s.toList ≠ [])
  rw [hxr] at hslash ⊢
  have hx : x ≠ '/' := fun e => hslash (e ▸ List.mem_cons_self)
  by_cases hx' : x = '.'
  · subst hx'
    cases r with
    | nil => exact absurd (String.ext (by simpa using hxr)) hdot
    | cons y r => exact leadComponent_dot_cons_other _ fun e => hslash (by simp [e])
  · exact leadComponent_cons_other _ hx hx'

/-- A plain name read as a path is that one name. -/
theorem pathComponents_plain {s : String} (h : IsPlainName s) : pathComponents s = [.normal s] := by
  simp [pathComponents, leadComponent_plain h, List.splitOn_eq_singleton h.2.1,
    pieceComponent_plain h]

/-- A plain name joined to a path adds one component to it, the name itself. -/
theorem pathComponents_joinPath (base : String) {s : String} (h : IsPlainName s) :
    pathComponents (joinPath base s) = pathComponents base ++ [.normal s] := by
  have hhead : s.toList.head? ≠ some '/' := fun e => h.2.1 (List.mem_of_mem_head? e)
  have hs : s.toList.splitOn '/' = [s.toList] := List.splitOn_eq_singleton h.2.1
  unfold joinPath
  rw [if_neg hhead]
  split
  · rename_i hb
    rcases hb with hb | hb
    · -- an empty base: the part alone
      obtain rfl : base = "" := by simpa using hb
      rw [String.empty_append, pathComponents_plain h]
      rfl
    · -- a base ending with a slash: the part is written right after it
      obtain ⟨b, hb⟩ := List.getLast?_eq_some_iff.1 hb
      have hlead : leadComponent (base.toList ++ s.toList) = leadComponent base.toList :=
        leadComponent_append (by simp [hb]) fun e => by
          have hl := congrArg List.getLast? (e.symm.trans hb)
          simp at hl
      have hpieces : (base.toList ++ s.toList).splitOn '/' = b.splitOn '/' ++ [s.toList] := by
        rw [hb, List.append_assoc, List.singleton_append, List.splitOn_append_cons_self, hs]
      have hbase : base.toList.splitOn '/' = b.splitOn '/' ++ [[]] := by
        rw [hb, List.splitOn_append_cons_self]
        rfl
      simp [pathComponents, hlead, hpieces, hbase, pieceComponent_nil, pieceComponent_plain h]
  · -- a slash is put between them
    rename_i hb
    have hne : base.toList ≠ [] := fun e => hb (.inl (by simp [e]))
    have hlead : leadComponent (base.toList ++ '/' :: s.toList) = leadComponent base.toList :=
      leadComponent_append hne fun _ => rfl
    have hpieces : (base.toList ++ '/' :: s.toList).splitOn '/' =
        base.toList.splitOn '/' ++ [s.toList] := by
      rw [List.splitOn_append_cons_self, hs]
    simp [pathComponents, hlead, hpieces, pieceComponent_plain h]

example : pathComponents (joinPath "/var/lib/nearlink/" "credentials") =
    [.rootDir, .normal "var", .normal "lib", .normal "nearlink", .normal "credentials"] := by
  decide

-- a part that is not a plain name can climb out of the base
example : pathComponents (joinPath "/var/lib/nearlink" "../etc") =
    [.rootDir, .normal "var", .normal "lib", .normal "nearlink", .parentDir, .normal "etc"] := by
  decide

/-- Text written after a joined path is written after its last part. -/
theorem joinPath_append (base : String) {part : String} (hne : part ≠ "") (t : String) :
    joinPath base part ++ t = joinPath base (part ++ t) := by
  have hhead : (part ++ t).toList.head? = part.toList.head? := by
    obtain ⟨x, r, hxr⟩ := List.exists_cons_of_ne_nil (by simpa using hne : part.toList ≠ [])
    simp [hxr]
  unfold joinPath
  rw [hhead]
  split
  · rfl
  · split <;> simp [String.append_assoc]

end Proximity
