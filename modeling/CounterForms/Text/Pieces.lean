/-!
Cutting text at a separator. There is always one piece more than there are separators, and joining
the pieces with the separator gives the text back. A text that is put together from parts can also
be cut between them, by their positions in its bytes.
-/

namespace CounterForms.Text

/-- The pieces between the separators, empty ones included. -/
def pieces (separator : Char) : List Char → List (List Char)
  | [] => [[]]
  | character :: later =>
      if character = separator then [] :: pieces separator later
      else
        match pieces separator later with
        | [] => [[character]]
        | piece :: others => (character :: piece) :: others

theorem pieces_ne_nil (separator : Char) (characters : List Char) :
    pieces separator characters ≠ [] := by
  cases characters with
  | nil => simp [pieces]
  | cons character later =>
      simp only [pieces]
      split
      · simp
      · split <;> simp

theorem intercalate_pieces (separator : Char) (characters : List Char) :
    [separator].intercalate (pieces separator characters) = characters := by
  induction characters with
  | nil => rfl
  | cons character later induction =>
      simp only [pieces]
      split
      next same =>
        cases known : pieces separator later with
        | nil => exact absurd known (pieces_ne_nil separator later)
        | cons piece others =>
            rw [known] at induction
            simp [List.intercalate, List.intersperse, same] at induction ⊢
            exact induction
      next =>
        cases known : pieces separator later with
        | nil => exact absurd known (pieces_ne_nil separator later)
        | cons piece others =>
            rw [known] at induction
            cases others <;>
              simp_all [List.intercalate, List.intersperse]

theorem pieces_eq_split_on (separator : Char) (characters : List Char) :
    pieces separator characters = characters.splitOn separator := by
  induction characters with
  | nil => rfl
  | cons character later induction =>
      rw [pieces, List.splitOn_cons_eq_if_modifyHead, ← induction]
      simp only [beq_iff_eq]
      split
      · rfl
      · cases known : pieces separator later with
        | nil => exact absurd known (pieces_ne_nil separator later)
        | cons piece others => rfl

/-- No piece holds the separator. -/
theorem separator_notin_pieces (separator : Char) (characters piece : List Char)
    (member : piece ∈ pieces separator characters) : separator ∉ piece := by
  induction characters generalizing piece with
  | nil => simp_all [pieces]
  | cons character later induction =>
      rw [pieces] at member
      split at member
      · rcases List.mem_cons.mp member with rfl | isLater
        · exact List.not_mem_nil
        · exact induction piece isLater
      next other =>
        cases known : pieces separator later with
        | nil => exact absurd known (pieces_ne_nil separator later)
        | cons first others =>
            rw [known] at member induction
            rcases List.mem_cons.mp member with rfl | isOther
            · have unheld := induction first List.mem_cons_self
              rintro (_ | ⟨_, held⟩)
              · exact other rfl
              · exact unheld held
            · exact induction piece (List.mem_cons_of_mem _ isOther)

theorem pieces_of_notin (separator : Char) (characters : List Char)
    (absent : separator ∉ characters) : pieces separator characters = [characters] := by
  rw [pieces_eq_split_on]
  exact List.splitOn_eq_singleton absent

theorem pieces_append_separator (separator : Char) (before after : List Char) :
    pieces separator (before ++ separator :: after) =
      pieces separator before ++ pieces separator after := by
  simp only [pieces_eq_split_on]
  exact List.splitOn_append_cons_self before after

/-- Pieces with a separator behind each are cut where these are. -/
theorem pieces_of_closed (separator : Char) (closed : List (List Char)) (last : List Char)
    (plain : ∀ piece ∈ closed, separator ∉ piece) :
    pieces separator (closed.flatMap (· ++ [separator]) ++ last) =
      closed ++ pieces separator last := by
  induction closed with
  | nil => rfl
  | cons piece others induction =>
      have first := pieces_of_notin separator piece (plain piece List.mem_cons_self)
      have later := induction fun other member => plain other (List.mem_cons_of_mem _ member)
      rw [List.flatMap_cons, List.append_assoc, List.append_assoc, List.singleton_append,
        pieces_append_separator, first, later]
      rfl

theorem intercalate_snoc (separator : Char) (closed : List (List Char)) (last : List Char) :
    [separator].intercalate (closed ++ [last]) = closed.flatMap (· ++ [separator]) ++ last := by
  induction closed with
  | nil => exact List.intercalate_singleton
  | cons piece others induction =>
      rw [List.cons_append, List.intercalate_cons_of_ne_nil (by simp), induction, List.flatMap_cons]
      simp only [List.append_assoc]

/-- A text has the pieces that it is put together from, if none of them holds the separator. -/
theorem pieces_eq_iff (separator : Char) (characters : List Char) (closed : List (List Char))
    (last : List Char) :
    pieces separator characters = closed ++ [last] ↔
      characters = closed.flatMap (· ++ [separator]) ++ last ∧
        (∀ piece ∈ closed, separator ∉ piece) ∧ separator ∉ last := by
  constructor
  · intro cut
    have plain := separator_notin_pieces separator characters
    rw [cut] at plain
    refine ⟨?_, fun piece member => plain piece (List.mem_append_left _ member),
      plain last (by simp)⟩
    rw [← intercalate_snoc, ← cut, intercalate_pieces]
  · rintro ⟨rfl, plain, absent⟩
    rw [pieces_of_closed separator closed last plain, pieces_of_notin separator last absent]

end CounterForms.Text
