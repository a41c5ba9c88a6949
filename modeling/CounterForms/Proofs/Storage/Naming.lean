import CounterForms.Storage.Path
import Mathlib.Data.List.Basic

/-!
Names in paths. The last component of a path is a name exactly if the text of the path ends in it,
slashes and single dots behind it left aside. A file name has a stem, the part before its last dot
unless that dot comes first. A name that is joined to a path is one component behind its components.
-/

namespace CounterForms

namespace Text

/-- Pieces that are joined, told from one of them: those before it have a separator behind them, and
those after it one in front. -/
theorem intercalate_around (separator : Char) (before after : List (List Char))
    (piece : List Char) :
    [separator].intercalate (before ++ piece :: after) =
      before.flatMap (· ++ [separator]) ++ (piece ++ after.flatMap (separator :: ·)) := by
  induction before with
  | cons first others induction =>
      rw [List.cons_append, List.intercalate_cons_of_ne_nil (by simp), induction,
        List.flatMap_cons]
      simp only [List.append_assoc]
  | nil =>
      induction after generalizing piece with
      | nil => simp [List.intercalate]
      | cons next others induction =>
          have rest := induction next
          rw [List.nil_append] at rest ⊢
          rw [List.intercalate_cons_of_ne_nil (by simp), rest, List.flatMap_cons]
          simp

end Text

namespace Path

/-- Between slashes, whatever is not empty, a single dot or two dots is a name. -/
structure IsName (name : List Char) : Prop where
  filled : name ≠ []
  notHere : name ≠ ['.']
  notParent : name ≠ ['.', '.']
  undivided : '/' ∉ name

/-- What may stand behind the last component: slashes, and single dots behind them. -/
inductive Trails : List Char → Prop
  | nothing : Trails []
  | slash (later : List Char) (trails : Trails later) : Trails ('/' :: later)
  | dot (later : List Char) (trails : Trails later) : Trails ('/' :: '.' :: later)

def EndsIn (path : Path) (name : String) : Prop :=
  IsName name.toList ∧ ∃ lead trail, path.chars = lead ++ (name.toList ++ trail) ∧
    (lead = [] ∨ lead.getLast? = some '/') ∧ Trails trail

/-- The stem of a file name: the part before the last dot if that part is not empty, and the whole
name if it has no dot but perhaps a first one. -/
inductive Stems : List Char → List Char → Prop
  | cut (stem extension : List Char) (filled : stem ≠ []) (last : '.' ∉ extension) :
      Stems (stem ++ '.' :: extension) stem
  | whole (name : List Char) (undotted : '.' ∉ name.tail) : Stems name name

theorem component_of_name (name : List Char) (isName : IsName name) :
    component? name = some (.name (String.ofList name)) := by
  rw [component?, if_neg (by simp [isName.filled, isName.notHere]), if_neg isName.notParent]

theorem component_name_iff (piece : List Char) (name : String) (undivided : '/' ∉ piece) :
    component? piece = some (.name name) ↔ IsName piece ∧ name.toList = piece := by
  constructor
  · intro means
    unfold component? at means
    split at means
    · cases means
    next shown =>
      split at means
      · cases means
      next notParent =>
        rw [not_or] at shown
        cases Option.some.inj means
        exact ⟨⟨shown.1, shown.2, notParent, undivided⟩, String.toList_ofList⟩
  · rintro ⟨isName, rfl⟩
    rw [component_of_name _ isName, String.ofList_toList]

theorem component_none_iff (piece : List Char) :
    component? piece = none ↔ piece = [] ∨ piece = ['.'] := by
  unfold component?
  split
  next blank => exact iff_of_true rfl blank
  next shown =>
    refine iff_of_false ?_ shown
    split <;> exact nofun

def start (characters : List Char) : List Component :=
  if characters.head? == some '/' then [.root]
  else if (Text.pieces '/' characters).head? = some ['.'] then [.here]
  else []

def meant (characters : List Char) : List Component :=
  (Text.pieces '/' characters).filterMap component?

theorem components_eq (path : Path) :
    path.components = start path.chars ++ meant path.chars := rfl

theorem meant_undivided (piece : List Char) (undivided : '/' ∉ piece) :
    meant piece = (component? piece).toList := by
  rw [meant, Text.pieces_of_notin '/' piece undivided, List.filterMap_cons]
  cases component? piece <;> rfl

theorem meant_slash (before after : List Char) :
    meant (before ++ '/' :: after) = meant before ++ meant after := by
  rw [meant, Text.pieces_append_separator, List.filterMap_append]
  rfl

/-- Behind a piece, what trails means nothing. -/
theorem meant_trailing (piece trail : List Char) (undivided : '/' ∉ piece)
    (trails : Trails trail) : meant (piece ++ trail) = (component? piece).toList := by
  induction trails generalizing piece with
  | nothing => rw [List.append_nil, meant_undivided piece undivided]
  | slash later trails induction =>
      have behind : meant later = [] := induction [] List.not_mem_nil
      rw [meant_slash, behind, List.append_nil, meant_undivided piece undivided]
  | dot later trails induction =>
      have behind : meant ('.' :: later) = [] := induction ['.'] (by decide)
      rw [meant_slash, behind, List.append_nil, meant_undivided piece undivided]

/-- Pieces without a meaning, with a slash before each, trail. -/
theorem trails_of_pieces (pieces : List (List Char))
    (meaningless : ∀ piece ∈ pieces, component? piece = none) :
    Trails (pieces.flatMap ('/' :: ·)) := by
  induction pieces with
  | nil => exact .nothing
  | cons piece others induction =>
      rw [List.forall_mem_cons] at meaningless
      have later := induction meaningless.2
      rcases (component_none_iff piece).mp meaningless.1 with rfl | rfl
      · exact .slash _ later
      · exact .dot _ later

theorem last_of_meant (path : Path) (name : String) :
    path.components.getLast? = some (.name name) ↔
      (meant path.chars).getLast? = some (.name name) := by
  rw [components_eq, List.getLast?_append]
  cases (meant path.chars).getLast? with
  | some component => rfl
  | none =>
      refine iff_of_false ?_ nofun
      rw [Option.none_or, start]
      split
      · exact nofun
      · split <;> exact nofun

/-- The text of a path ends in the name that the last of its pieces with a meaning means. -/
theorem ends_in_of_meant (path : Path) (name : String)
    (last : (meant path.chars).getLast? = some (.name name)) : path.EndsIn name := by
  obtain ⟨others, split⟩ := List.getLast?_eq_some_iff.mp last
  obtain ⟨before, behind, parts, -, found⟩ := List.filterMap_eq_append_iff.mp split
  obtain ⟨skipped, piece, after, rfl, -, means, rest⟩ := List.filterMap_eq_cons_iff.mp found
  have undivided : '/' ∉ piece := by
    apply Text.separator_notin_pieces '/' path.chars
    rw [parts]
    simp
  obtain ⟨isName, rfl⟩ := (component_name_iff piece name undivided).mp means
  have meaningless : ∀ other ∈ after, component? other = none :=
    List.filterMap_eq_nil_iff.mp rest
  refine ⟨isName, (before ++ skipped).flatMap (· ++ ['/']), _, ?_, ?_,
    trails_of_pieces after meaningless⟩
  · rw [← Text.intercalate_around, List.append_assoc, ← parts, Text.intercalate_pieces]
  · rcases List.eq_nil_or_concat (before ++ skipped) with none | ⟨front, final, some⟩
    · left
      rw [none]
      rfl
    · right
      rw [some]
      simp

theorem meant_of_ends_in (path : Path) (name : String) (ends : path.EndsIn name) :
    (meant path.chars).getLast? = some (.name name) := by
  obtain ⟨isName, lead, trail, text, leads, trails⟩ := ends
  have behind := meant_trailing name.toList trail isName.undivided trails
  rw [component_of_name _ isName, String.ofList_toList, Option.toList_some] at behind
  rcases leads with rfl | slash
  · rw [text, List.nil_append, behind]
    rfl
  · obtain ⟨front, rfl⟩ := List.getLast?_eq_some_iff.mp slash
    rw [text, List.append_assoc, List.singleton_append, meant_slash, behind]
    simp

/-- The last component of a path is a name exactly if the text of the path ends in it. -/
theorem last_name_iff (path : Path) (name : String) :
    path.components.getLast? = some (.name name) ↔ path.EndsIn name := by
  rw [last_of_meant]
  exact ⟨path.ends_in_of_meant name, path.meant_of_ends_in name⟩

theorem file_name_iff (path : Path) (name : String) :
    path.fileName? = some name ↔ path.components.getLast? = some (.name name) := by
  unfold fileName?
  cases path.components.getLast? with
  | none => exact iff_of_false nofun nofun
  | some component => cases component <;> simp

theorem stem_of_cut (stem extension : List Char) (filled : stem ≠ []) (last : '.' ∉ extension) :
    stemOf (String.ofList (stem ++ '.' :: extension)) = String.ofList stem := by
  have dropped : (stem ++ '.' :: extension).reverse.dropWhile (· != '.') =
      '.' :: stem.reverse := by
    rw [List.reverse_append, List.reverse_cons, List.append_assoc, List.singleton_append,
      List.dropWhile_append_of_pos]
    · rfl
    · intro character member
      rw [bne_iff_ne]
      rintro rfl
      exact last (List.mem_reverse.mp member)
  obtain ⟨final, front, backward⟩ := List.exists_cons_of_ne_nil (List.reverse_ne_nil_iff.mpr filled)
  unfold stemOf
  dsimp only
  rw [String.toList_ofList, dropped, backward]
  dsimp only
  rw [← backward, List.reverse_reverse]

theorem stem_of_whole (name : List Char) (undotted : '.' ∉ name.tail) :
    stemOf (String.ofList name) = String.ofList name := by
  unfold stemOf
  dsimp only
  rw [String.toList_ofList]
  cases name with
  | nil => rfl
  | cons first later =>
      have passed : ∀ character ∈ later.reverse, (character != '.') = true := by
        intro character member
        rw [bne_iff_ne]
        rintro rfl
        exact undotted (List.mem_reverse.mp member)
      rw [List.reverse_cons, List.dropWhile_append_of_pos passed]
      by_cases dot : first = '.'
      · rw [dot]
        rfl
      · simp [dot]

/-- Every name has a stem. -/
theorem stems_total (name : List Char) : ∃ stem, Stems name stem := by
  cases name with
  | nil => exact ⟨[], .whole [] List.not_mem_nil⟩
  | cons first later =>
      by_cases dotted : '.' ∈ later
      · obtain ⟨extension, front, backward, last⟩ :=
          List.eq_append_cons_of_mem (List.mem_reverse.mpr dotted)
        have split : first :: later = (first :: front.reverse) ++ '.' :: extension.reverse := by
          rw [← later.reverse_reverse, backward]
          simp
        rw [split]
        exact ⟨_, .cut _ _ (List.cons_ne_nil _ _) (by simpa using last)⟩
      · exact ⟨_, .whole (first :: later) dotted⟩

theorem stem_iff (name stem : String) :
    stemOf name = stem ↔ Stems name.toList stem.toList := by
  have found : ∀ characters, Stems name.toList characters →
      stemOf name = String.ofList characters := by
    intro characters stems
    rw [← name.ofList_toList]
    generalize name.toList = text at stems ⊢
    cases stems with
    | cut _ extension filled last => exact stem_of_cut characters extension filled last
    | whole _ undotted => exact stem_of_whole _ undotted
  constructor
  · rintro rfl
    obtain ⟨characters, stems⟩ := stems_total name.toList
    rw [found characters stems, String.toList_ofList]
    exact stems
  · intro stems
    rw [found _ stems, String.ofList_toList]

theorem Stems.undivided {name stem : List Char} (stems : Stems name stem) (whole : '/' ∉ name) :
    '/' ∉ stem := by
  cases stems with
  | cut stem extension filled last => exact fun member => whole (List.mem_append_left _ member)
  | whole name undotted => exact whole

/-- A text that ends with more than a dot or two is a name, unless it holds a slash. -/
theorem is_name_of_long (name : List Char) (long : 2 < name.length) (undivided : '/' ∉ name) :
    IsName name where
  filled := by rintro rfl; simp at long
  notHere := by rintro rfl; simp at long
  notParent := by rintro rfl; simp at long
  undivided := undivided

/-- A name is put behind a path with a slash between them, unless the path ends with one or is
empty. -/
theorem join_cases (base : Path) (name : String) (undivided : '/' ∉ name.toList) :
    (base.chars = [] ∧ (base.join name).chars = name.toList) ∨
      ∃ front, (base.chars = front ++ ['/'] ∨ (base.chars = front ∧ front ≠ [])) ∧
        (base.join name).chars = front ++ '/' :: name.toList := by
  have relative : (Path.mk name).isAbsolute = false := by
    rw [isAbsolute, beq_eq_false_iff_ne]
    intro slash
    exact undivided (List.mem_of_head? slash)
  have joined : base.join name =
      if base.isEmpty || base.chars.getLast? == some '/' then ⟨base.text ++ name⟩
      else ⟨base.text ++ "/" ++ name⟩ := by
    rw [join, relative]
    rfl
  have blank : base.isEmpty = true ↔ base.chars = [] := by
    rw [isEmpty, String.isEmpty_iff, chars, String.toList_eq_nil_iff]
  rw [joined]
  by_cases none : base.chars = []
  · left
    rw [blank.mpr none, Bool.true_or, if_pos rfl]
    refine ⟨none, ?_⟩
    rw [chars, String.toList_append, ← chars, none, List.nil_append]
  · right
    rw [Bool.eq_false_iff.mpr (mt blank.mp none), Bool.false_or]
    by_cases slash : base.chars.getLast? = some '/'
    · obtain ⟨front, text⟩ := List.getLast?_eq_some_iff.mp slash
      refine ⟨front, .inl text, ?_⟩
      rw [if_pos (beq_iff_eq.mpr slash), chars, String.toList_append, ← chars, text,
        List.append_assoc, List.singleton_append]
    · refine ⟨base.chars, .inr ⟨rfl, none⟩, ?_⟩
      rw [if_neg (mt beq_iff_eq.mp slash), chars, String.toList_append, String.toList_append,
        ← chars, List.append_assoc]
      rfl

theorem start_slash (front later : List Char) :
    start (front ++ '/' :: later) = start (front ++ ['/']) := by
  have pieces := Text.pieces_ne_nil '/' front
  unfold start
  rw [Text.pieces_append_separator, Text.pieces_append_separator,
    List.head?_append_of_ne_nil _ pieces, List.head?_append_of_ne_nil _ pieces]
  cases front <;> rfl

theorem start_open (front later : List Char) (filled : front ≠ []) :
    start (front ++ '/' :: later) = start front := by
  unfold start
  rw [Text.pieces_append_separator, List.head?_append_of_ne_nil _ (Text.pieces_ne_nil '/' front),
    List.head?_append_of_ne_nil _ filled]

/-- A name that is joined to a path is one more component. -/
theorem components_join (base : Path) (name : String) (isName : IsName name.toList) :
    (base.join name).components = base.components ++ [.name name] := by
  have last : meant name.toList = [.name name] := by
    rw [meant_undivided _ isName.undivided, component_of_name _ isName, String.ofList_toList]
    rfl
  rw [components_eq, components_eq]
  rcases base.join_cases name isName.undivided with ⟨none, text⟩ | ⟨front, ends, text⟩
  · have plain : start name.toList = [] := by
      unfold start
      rw [Text.pieces_of_notin '/' _ isName.undivided, if_neg, if_neg]
      · simpa using isName.notHere
      · rw [beq_iff_eq]
        intro slash
        exact isName.undivided (List.mem_of_head? slash)
    rw [text, none, last, plain]
    rfl
  · rw [text, meant_slash, last, ← List.append_assoc]
    rcases ends with slash | ⟨rfl, filled⟩
    · have same : meant base.chars = meant front := by
        rw [slash, meant_slash]
        simp [meant, Text.pieces, component?]
      rw [start_slash, ← slash, same]
    · rw [start_open _ _ filled]

end Path

end CounterForms
