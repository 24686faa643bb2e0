import Mathlib.Data.List.Infix
import Mathlib.Order.Bounds.Basic
import QueryTyping.Text.EditDistance

/-!
# The edit distance is the least number of edits

An edit puts a character into a text, takes one out or exchanges one. `distance` is the usual
recursion over the first characters of two texts, which takes exponential time. It gives the least
number of edits that lead from one text to the other (`isLeast_distance`): every edit changes it by
one at most (`Edit.distance_le`), wherever in the text it is made.

Edits can be undone, put one after the other, and made in the texts read backwards. So `distance` is
a metric, and satisfies the same recursion over the last characters (`distance_concat`). By this
equation each row of the table follows from the one before (`nextRow_inits`), and the cells that a
row takes from the one before are all there (`pushCells_eq_nextCells`).
-/

namespace QueryTyping.Text

variable {a a' b b' : List Char} {m n : Nat}

/-! ## Edits -/

/-- A character is put into the text, taken out of it or exchanged for another. -/
inductive Edit : List Char → List Char → Prop where
  | insert (before behind : List Char) (c : Char) :
      Edit (before ++ behind) (before ++ c :: behind)
  | delete (before behind : List Char) (c : Char) :
      Edit (before ++ c :: behind) (before ++ behind)
  | substitute (before behind : List Char) (c d : Char) :
      Edit (before ++ c :: behind) (before ++ d :: behind)

/-- A number of edits, one after the other. -/
inductive Edits : Nat → List Char → List Char → Prop where
  | nil (a : List Char) : Edits 0 a a
  | concat {n : Nat} {a b b' : List Char} (h : Edits n a b) (hedit : Edit b b') :
      Edits (n + 1) a b'

theorem Edit.symm (h : Edit a b) : Edit b a := by
  cases h with
  | insert before behind c => exact .delete before behind c
  | delete before behind c => exact .insert before behind c
  | substitute before behind c d => exact .substitute before behind d c

theorem Edit.cons (c : Char) (h : Edit a b) : Edit (c :: a) (c :: b) := by
  cases h with
  | insert before behind d => exact .insert (c :: before) behind d
  | delete before behind d => exact .delete (c :: before) behind d
  | substitute before behind d e => exact .substitute (c :: before) behind d e

theorem Edit.reverse (h : Edit a b) : Edit a.reverse b.reverse := by
  cases h with
  | insert before behind c => simpa using Edit.insert behind.reverse before.reverse c
  | delete before behind c => simpa using Edit.delete behind.reverse before.reverse c
  | substitute before behind c d =>
    simpa using Edit.substitute behind.reverse before.reverse c d

theorem Edit.edits (h : Edit a b) : Edits 1 a b := .concat (.nil a) h

theorem Edits.trans {b c : List Char} (h : Edits m a b) (h' : Edits n b c) :
    Edits (m + n) a c := by
  induction h' with
  | nil b => exact h
  | concat _ hedit ih => exact .concat (ih h) hedit

theorem Edits.symm (h : Edits n a b) : Edits n b a := by
  induction h with
  | nil a => exact .nil a
  | @concat n a b b' _ hedit ih =>
    rw [Nat.add_comm]
    exact hedit.symm.edits.trans ih

/-- What can be made of edits can be made of a number of them. -/
theorem Edits.map {f : List Char → List Char} (hf : ∀ {a b}, Edit a b → Edit (f a) (f b))
    (h : Edits n a b) : Edits n (f a) (f b) := by
  induction h with
  | nil a => exact .nil (f a)
  | concat _ hedit ih => exact .concat ih (hf hedit)

theorem edits_min (h : Edits m a b) (h' : Edits n a b) : Edits (min m n) a b := by
  rcases Nat.le_total m n with hle | hle
  · rwa [Nat.min_eq_left hle]
  · rwa [Nat.min_eq_right hle]

/-! ## The recursion -/

/-- The edit distance of two texts. The first character of the one is taken out, or that of the
other is put in, or both are matched, at no cost if they are the same. -/
def distance : List Char → List Char → Nat
  | [], b => b.length
  | a, [] => a.length
  | c :: a, d :: b =>
    min (min (distance a (d :: b) + 1) (distance (c :: a) b + 1))
      (distance a b + if c = d then 0 else 1)
termination_by a b => a.length + b.length

@[simp] theorem distance_nil_left (b : List Char) : distance [] b = b.length := by
  rw [distance]

@[simp] theorem distance_nil_right (a : List Char) : distance a [] = a.length := by
  cases a <;> simp [distance]

theorem distance_cons_cons (c d : Char) (a b : List Char) :
    distance (c :: a) (d :: b) =
      min (min (distance a (d :: b) + 1) (distance (c :: a) b + 1))
        (distance a b + if c = d then 0 else 1) := by
  rw [distance]

/-! ## So many edits are enough -/

theorem edits_nil_left (b : List Char) : Edits b.length [] b := by
  induction b with
  | nil => exact .nil []
  | cons d b ih => exact .concat ih (.insert [] b d)

theorem edits_distance (a b : List Char) : Edits (distance a b) a b := by
  fun_induction distance a b with
  | case1 b => exact edits_nil_left b
  | case2 a => exact (edits_nil_left a).symm
  | case3 c a d b ihdelete ihinsert ihmatch =>
    have hdelete : Edits (distance a (d :: b) + 1) (c :: a) (d :: b) := by
      rw [Nat.add_comm]
      exact (Edit.delete [] a c).edits.trans ihdelete
    have hinsert : Edits (distance (c :: a) b + 1) (c :: a) (d :: b) :=
      .concat ihinsert (.insert [] b d)
    have hmatch : Edits (distance a b + if c = d then 0 else 1) (c :: a) (d :: b) := by
      have hbehind : Edits (distance a b) (c :: a) (c :: b) := ihmatch.map (Edit.cons c)
      split
      · next heq => exact heq ▸ hbehind
      · exact .concat hbehind (.substitute [] b c d)
    exact edits_min (edits_min hdelete hinsert) hmatch

/-! ## Fewer edits are not -/

theorem distance_self (a : List Char) : distance a a = 0 := by
  induction a with
  | nil => rw [distance_nil_left, List.length_nil]
  | cons c a ih => simp [distance_cons_cons, ih]

theorem distance_insert_le (a b : List Char) (d : Char) :
    distance a (d :: b) ≤ distance a b + 1 := by
  cases a with
  | nil => simp
  | cons c a =>
    rw [distance_cons_cons]
    omega

theorem distance_le_insert (a b : List Char) (d : Char) :
    distance a b ≤ distance a (d :: b) + 1 := by
  induction a with
  | nil => simp; omega
  | cons c a ih =>
    have hdelete : distance (c :: a) b ≤ distance a b + 1 := by
      cases b with
      | nil => simp
      | cons e b =>
        rw [distance_cons_cons]
        omega
    rw [distance_cons_cons]
    omega

theorem distance_substitute_le (a b : List Char) (d e : Char) :
    distance a (e :: b) ≤ distance a (d :: b) + 1 := by
  induction a with
  | nil => simp
  | cons c a ih =>
    rw [distance_cons_cons, distance_cons_cons]
    split <;> split <;> omega

/-- What holds at the beginning of a text holds behind a character. -/
theorem distance_cons_le (h : ∀ a, distance a b' ≤ distance a b + 1) (a : List Char) (d : Char) :
    distance a (d :: b') ≤ distance a (d :: b) + 1 := by
  induction a with
  | nil =>
    have hlength := h []
    simp only [distance_nil_left, List.length_cons] at hlength ⊢
    omega
  | cons c a ih =>
    have hinsert := h (c :: a)
    have hmatch := h a
    rw [distance_cons_cons, distance_cons_cons]
    omega

/-- One edit changes the distance by one at most. -/
theorem Edit.distance_le (h : Edit b b') (a : List Char) : distance a b' ≤ distance a b + 1 := by
  have behind {b b' : List Char} (before : List Char)
      (h : ∀ a, distance a b' ≤ distance a b + 1) :
      ∀ a, distance a (before ++ b') ≤ distance a (before ++ b) + 1 := by
    induction before with
    | nil => exact h
    | cons d before ih => exact fun a => distance_cons_le ih a d
  cases h with
  | insert before rest c => exact behind before (fun a => distance_insert_le a rest c) a
  | delete before rest c => exact behind before (fun a => distance_le_insert a rest c) a
  | substitute before rest c d => exact behind before (fun a => distance_substitute_le a rest c d) a

theorem Edits.distance_le (h : Edits n a b) : distance a b ≤ n := by
  induction h with
  | nil a => rw [distance_self]
  | concat _ hedit ih => exact (hedit.distance_le _).trans (Nat.succ_le_succ ih)

/-- The distance is the least number of edits. -/
theorem isLeast_distance (a b : List Char) : IsLeast {n | Edits n a b} (distance a b) :=
  ⟨edits_distance a b, fun _ h => h.distance_le⟩

/-! ## What follows for the distance -/

theorem distance_comm (a b : List Char) : distance a b = distance b a :=
  Nat.le_antisymm (edits_distance b a).symm.distance_le (edits_distance a b).symm.distance_le

theorem distance_reverse (a b : List Char) : distance a.reverse b.reverse = distance a b := by
  have hle (a b : List Char) : distance a.reverse b.reverse ≤ distance a b :=
    ((edits_distance a b).map Edit.reverse).distance_le
  refine Nat.le_antisymm (hle a b) ?_
  simpa using hle a.reverse b.reverse

theorem distance_triangle (a b c : List Char) : distance a c ≤ distance a b + distance b c :=
  ((edits_distance a b).trans (edits_distance b c)).distance_le

theorem distance_eq_zero_iff : distance a b = 0 ↔ a = b := by
  constructor
  · intro h
    have hedits := edits_distance a b
    rw [h] at hedits
    cases hedits
    rfl
  · rintro rfl
    exact distance_self a

/-- The recursion over the last characters. -/
theorem distance_concat (a b : List Char) (c d : Char) :
    distance (a ++ [c]) (b ++ [d]) =
      min (min (distance a (b ++ [d]) + 1) (distance (a ++ [c]) b + 1))
        (distance a b + if c = d then 0 else 1) := by
  have h := distance_cons_cons c d a.reverse b.reverse
  rw [← List.reverse_concat', ← List.reverse_concat'] at h
  simpa only [distance_reverse] using h

/-! ## Rows -/

theorem map_tail_inits_cons (f : List Char → Nat) (d : Char) (rest : List Char) :
    (d :: rest).inits.tail.map f = f [d] :: rest.inits.tail.map fun behind => f (d :: behind) := by
  cases rest <;> simp

/-- The cells to the right of a beginning of the text across. -/
theorem nextCells_inits (c : Char) (a before rest : List Char) :
    nextCells c (distance (a ++ [c]) before) (distance a before) rest
        (rest.inits.tail.map fun behind => distance a (before ++ behind)) =
      rest.inits.tail.map fun behind => distance (a ++ [c]) (before ++ behind) := by
  induction rest generalizing before with
  | nil => rfl
  | cons d rest ih =>
    have ih := ih (before ++ [d])
    simp only [List.append_assoc, List.singleton_append] at ih
    rw [map_tail_inits_cons, map_tail_inits_cons, nextCells, ← distance_concat, ih]

/-- A row holds the distances to all beginnings of the text across, and so does the next one. -/
theorem nextRow_inits (across a : List Char) (c : Char) :
    nextRow across (across.inits.map (distance a)) c = across.inits.map (distance (a ++ [c])) := by
  have hinits : across.inits = [] :: across.inits.tail := by cases across <;> rfl
  have hcells := nextCells_inits c a [] across
  simp only [distance_nil_right, List.length_append, List.length_singleton, List.nil_append]
    at hcells
  rw [hinits, List.map_cons, List.map_cons, nextRow]
  simp only [distance_nil_right, List.length_append, List.length_singleton]
  exact congrArg _ hcells

theorem foldl_nextRow_inits (down across a : List Char) :
    down.foldl (nextRow across) (across.inits.map (distance a)) =
      across.inits.map (distance (a ++ down)) := by
  induction down generalizing a with
  | nil => rw [List.append_nil, List.foldl_nil]
  | cons c down ih =>
    rw [List.foldl_cons, nextRow_inits, ih, List.append_assoc, List.singleton_append]

theorem firstRow_eq_inits (across : List Char) :
    firstRow across = across.inits.map (distance []) := by
  refine List.ext_getElem (by simp [firstRow]) fun j hj hj' => ?_
  simp [firstRow] at hj ⊢
  omega

theorem rowDistance_eq_distance (down across : List Char) :
    rowDistance down across = distance down across := by
  have hlast (f : List Char → Nat) : (across.inits.map f).getLastD 0 = f across := by
    rcases across.eq_nil_or_concat with rfl | ⟨before, d, rfl⟩
    · rfl
    · simp [List.inits_append]
  rw [rowDistance, firstRow_eq_inits, foldl_nextRow_inits, hlast, List.nil_append]

/-- Which of the texts lies along the rows makes no difference. -/
theorem editDistance_eq_distance (a b : List Char) : editDistance a b = distance a b := by
  unfold editDistance
  split
  · rw [rowDistance_eq_distance, distance_comm]
  · rw [rowDistance_eq_distance]

/-! ## The same by indices -/

/-- Puts the cells for the characters from place `j` on at the end of the current row. There is no
result if a cell is looked for where none is. -/
def pushCells (previous : List Nat) (c : Char) :
    (current : List Nat) → (j : Nat) → List Char → Option (List Nat)
  | current, _, [] => some current
  | current, j, d :: ds => do
    let up ← previous[j + 1]?
    let left ← current[j]?
    let corner ← previous[j]?
    let cell := min (min (up + 1) (left + 1)) (corner + if c = d then 0 else 1)
    pushCells previous c (current ++ [cell]) (j + 1) ds

/-- Goes on with the rows for the characters from place `i` on. -/
def pushRows (across : List Char) :
    (previous : List Nat) → (i : Nat) → List Char → Option (List Nat)
  | previous, _, [] => some previous
  | previous, i, c :: cs => do
    let current ← pushCells previous c [i + 1] 0 across
    pushRows across current (i + 1) cs

/-- The cell at the end of the last row. -/
def indexedRowDistance (down across : List Char) : Option Nat := do
  let row ← pushRows across (List.range (across.length + 1)) 0 down
  row[across.length]?

/-- The edit distance by two loops that find all cells by their places. -/
def indexedDistance (a b : List Char) : Option Nat :=
  if a.length < b.length then indexedRowDistance b a else indexedRowDistance a b

theorem length_nextCells (c : Char) (left corner : Nat) {rest : List Char} {above : List Nat}
    (h : above.length = rest.length) :
    (nextCells c left corner rest above).length = rest.length := by
  induction rest generalizing left corner above with
  | nil => rfl
  | cons d rest ih =>
    obtain ⟨up, above, rfl⟩ := List.exists_cons_of_length_eq_add_one h
    rw [nextCells, List.length_cons, ih _ _ (Nat.succ.inj h), List.length_cons]

/-- The cells that are looked for are those that are handed on. -/
theorem pushCells_eq_nextCells (c : Char) (seen done above : List Nat) (corner left : Nat)
    {rest : List Char} (hseen : seen.length = done.length) (h : above.length = rest.length) :
    pushCells (seen ++ corner :: above) c (done ++ [left]) done.length rest =
      some (done ++ left :: nextCells c left corner rest above) := by
  induction rest generalizing seen done above corner left with
  | nil =>
    obtain rfl := List.length_eq_zero_iff.mp h
    rfl
  | cons d rest ih =>
    obtain ⟨up, above, rfl⟩ := List.exists_cons_of_length_eq_add_one h
    have hup : (seen ++ corner :: up :: above)[done.length + 1]? = some up := by
      simp [← hseen]
    have hleft : (done ++ [left])[done.length]? = some left := by simp
    have hcorner : (seen ++ corner :: up :: above)[done.length]? = some corner := by
      simp [← hseen]
    have ih (cell : Nat) := ih (seen ++ [corner]) (done ++ [left]) above up cell (by simp [hseen])
      (Nat.succ.inj h)
    simp only [List.append_assoc, List.singleton_append, List.length_append,
      List.length_singleton] at ih
    rw [pushCells, hup, hleft, hcorner, nextCells]
    simp only [Option.bind_eq_bind, Option.bind_some, List.append_assoc, List.singleton_append]
    exact ih _

/-- No row is shorter than the text across, so every cell is found. -/
theorem pushRows_eq_foldl (across : List Char) (i : Nat) (above : List Nat) (down : List Char)
    (h : above.length = across.length) :
    pushRows across (i :: above) i down = some (down.foldl (nextRow across) (i :: above)) ∧
      (down.foldl (nextRow across) (i :: above)).length = across.length + 1 := by
  induction down generalizing i above with
  | nil => exact ⟨rfl, by rw [List.foldl_nil, List.length_cons, h]⟩
  | cons c down ih =>
    have hcells := pushCells_eq_nextCells c [] [] above i (i + 1) rfl h
    have hlength := length_nextCells c (i + 1) i h
    rw [pushRows, List.foldl_cons, nextRow]
    simp only [List.nil_append, List.length_nil] at hcells
    rw [hcells]
    exact ih (i + 1) _ hlength

theorem indexedRowDistance_eq_rowDistance (down across : List Char) :
    indexedRowDistance down across = some (rowDistance down across) := by
  have hfirst : List.range (across.length + 1) = 0 :: (List.range across.length).map (· + 1) :=
    List.range_succ_eq_map
  obtain ⟨hrows, hlength⟩ := pushRows_eq_foldl across 0 ((List.range across.length).map (· + 1))
    down (by simp)
  rw [← hfirst] at hrows hlength
  have hcell : across.length < (down.foldl (nextRow across)
      (List.range (across.length + 1))).length := by omega
  rw [indexedRowDistance, hrows, rowDistance, firstRow, List.getLastD_eq_getLast?,
    List.getLast?_eq_getElem?, hlength, Nat.add_sub_cancel]
  simp [List.getElem?_eq_getElem hcell]

theorem indexedDistance_eq_editDistance (a b : List Char) :
    indexedDistance a b = some (editDistance a b) := by
  unfold indexedDistance editDistance
  split
  · exact indexedRowDistance_eq_rowDistance b a
  · exact indexedRowDistance_eq_rowDistance a b

/-- The edit distance is the least number of insertions, deletions and substitutions that lead from
one text to the other, and so what the recursion says. Computed row by row, with the shorter text
along the rows, it never looks for a cell that is not there. It is the same in both directions, zero
only for equal texts, and not longer than a way by a third text. -/
theorem editDistance_eq_least (a b : List Char) :
    IsLeast {n | Edits n a b} (editDistance a b) ∧
      editDistance a b = distance a b ∧
      indexedDistance a b = some (editDistance a b) ∧
      editDistance a b = editDistance b a ∧
      (editDistance a b = 0 ↔ a = b) ∧
      ∀ c, editDistance a c ≤ editDistance a b + editDistance b c := by
  refine ⟨?_, editDistance_eq_distance a b, indexedDistance_eq_editDistance a b, ?_, ?_, ?_⟩
  · rw [editDistance_eq_distance]
    exact isLeast_distance a b
  · rw [editDistance_eq_distance, editDistance_eq_distance, distance_comm]
  · rw [editDistance_eq_distance, distance_eq_zero_iff]
  · intro c
    simp only [editDistance_eq_distance]
    exact distance_triangle a b c

end QueryTyping.Text
