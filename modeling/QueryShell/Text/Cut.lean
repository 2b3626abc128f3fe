/-
Cutting a text at every mark. The pieces are what stands between the marks, empty ones included, so
joining them with the mark gives the text back.
-/
namespace QueryShell.Text

/-- The pieces of a text between marks; `piece` holds the current one in reverse. -/
def cutFrom (mark : Char) (piece : List Char) : List Char → List (List Char)
  | [] => [piece.reverse]
  | c :: rest =>
    if c = mark then piece.reverse :: cutFrom mark [] rest else cutFrom mark (c :: piece) rest

/-- The pieces of a text between marks. -/
def cutAt (mark : Char) (text : List Char) : List (List Char) :=
  cutFrom mark [] text

theorem cutFrom_ne_nil (mark : Char) (piece text : List Char) : cutFrom mark piece text ≠ [] := by
  induction text generalizing piece with
  | nil => simp [cutFrom]
  | cons c rest ih => by_cases h : c = mark <;> simp [cutFrom, h, ih]

theorem intercalate_cutFrom (mark : Char) (piece text : List Char) :
    [mark].intercalate (cutFrom mark piece text) = piece.reverse ++ text := by
  induction text generalizing piece with
  | nil => simp [cutFrom]
  | cons c rest ih =>
    by_cases h : c = mark
    · subst h
      have := ih []
      cases hp : cutFrom c [] rest with
      | nil => exact absurd hp (cutFrom_ne_nil c [] rest)
      | cons p ps => simp_all [cutFrom, List.intercalate_cons_cons]
    · simp [cutFrom, h, ih]

/-- Joining the pieces gives the text back. -/
theorem intercalate_cutAt (mark : Char) (text : List Char) :
    [mark].intercalate (cutAt mark text) = text := by
  simp [cutAt, intercalate_cutFrom]

theorem cutFrom_append (mark : Char) (piece front rest : List Char) (h : mark ∉ front) :
    cutFrom mark piece (front ++ mark :: rest) = (piece.reverse ++ front) :: cutAt mark rest := by
  induction front generalizing piece with
  | nil => simp [cutFrom, cutAt]
  | cons c front ih =>
    simp only [List.mem_cons, not_or] at h
    simp [cutFrom, Ne.symm h.1, ih _ h.2]

theorem cutFrom_of_not_mem (mark : Char) (piece text : List Char) (h : mark ∉ text) :
    cutFrom mark piece text = [piece.reverse ++ text] := by
  induction text generalizing piece with
  | nil => simp [cutFrom]
  | cons c text ih =>
    simp only [List.mem_cons, not_or] at h
    simp [cutFrom, Ne.symm h.1, ih _ h.2]

/-- Cutting joined pieces gives them back, if the mark is in none of them. -/
theorem cutAt_intercalate (mark : Char) (pieces : List (List Char)) (hne : pieces ≠ [])
    (h : ∀ p ∈ pieces, mark ∉ p) : cutAt mark ([mark].intercalate pieces) = pieces := by
  induction pieces with
  | nil => exact absurd rfl hne
  | cons p ps ih =>
    cases ps with
    | nil => simpa [cutAt] using cutFrom_of_not_mem mark [] p (h p (by simp))
    | cons q qs =>
      have := cutFrom_append mark [] p ([mark].intercalate (q :: qs)) (h p (by simp))
      rw [List.intercalate_cons_cons, List.append_assoc, List.singleton_append, cutAt, this]
      simp [ih (by simp) fun r hr => h r (List.mem_cons_of_mem _ hr)]

end QueryShell.Text
