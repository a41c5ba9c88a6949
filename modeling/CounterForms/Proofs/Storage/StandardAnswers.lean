import CounterForms.Files
import CounterForms.Proofs.Outcome
import CounterForms.Proofs.Storage.Naming

/-!
Where the answers of a form go if nothing else is said. There is such a place exactly if the path of
the form ends in a name and the environment leads to a directory for data; then it lies right in the
directory for answers there, under the stem of the name.
-/

namespace CounterForms

/-- The directory for data: below the one that a variable names, if that is a path from the root,
and else below the home directory. -/
inductive Environment.KeepsData (environment : Environment) : Path → Prop
  | named (text : String) (set : environment.value? "XDG_DATA_HOME" = some text)
      (absolute : text.toList.head? = some '/') :
      KeepsData environment ((Path.mk text).join "tally")
  | below (home : String)
      (unnamed : ∀ text, environment.value? "XDG_DATA_HOME" = some text →
        text.toList.head? ≠ some '/')
      (found : environment.home? = some home) :
      KeepsData environment ((((Path.mk home).join ".local").join "share").join "tally")

namespace Environment

theorem data_directory_named (environment : Environment) (text : String)
    (set : environment.value? "XDG_DATA_HOME" = some text)
    (absolute : text.toList.head? = some '/') :
    environment.dataDirectory? = some ((Path.mk text).join "tally") := by
  have isAbsolute : (Path.mk text).isAbsolute = true := beq_iff_eq.mpr absolute
  rw [dataDirectory?, programDirectory?, set]
  exact if_pos isAbsolute

theorem data_directory_unnamed (environment : Environment)
    (unnamed : ∀ text, environment.value? "XDG_DATA_HOME" = some text →
      text.toList.head? ≠ some '/') :
    environment.dataDirectory? = environment.home?.map fun home =>
      (((Path.mk home).join ".local").join "share").join "tally" := by
  rw [dataDirectory?, programDirectory?]
  cases set : environment.value? "XDG_DATA_HOME" with
  | none => rfl
  | some text =>
      have relative : ¬(Path.mk text).isAbsolute = true := mt beq_iff_eq.mp (unnamed text set)
      exact if_neg relative

theorem data_directory_iff (environment : Environment) (directory : Path) :
    environment.dataDirectory? = some directory ↔ environment.KeepsData directory := by
  constructor
  · intro found
    by_cases named : ∃ text, environment.value? "XDG_DATA_HOME" = some text ∧
        text.toList.head? = some '/'
    · obtain ⟨text, set, absolute⟩ := named
      rw [environment.data_directory_named text set absolute] at found
      cases found
      exact .named text set absolute
    · have unnamed : ∀ text, environment.value? "XDG_DATA_HOME" = some text →
          text.toList.head? ≠ some '/' := fun text set absolute => named ⟨text, set, absolute⟩
      rw [environment.data_directory_unnamed unnamed] at found
      obtain ⟨home, isHome, rfl⟩ := Option.map_eq_some_iff.mp found
      exact .below home unnamed isHome
  · intro keeps
    cases keeps with
    | named text set absolute => exact environment.data_directory_named text set absolute
    | below home unnamed found =>
        rw [environment.data_directory_unnamed unnamed, found]
        rfl

/-- The directory for data has an end of its own, which is no slash. -/
theorem KeepsData.ends {environment : Environment} {directory : Path}
    (keeps : environment.KeepsData directory) :
    ∃ front, directory.chars = front ++ "tally".toList := by
  have joined (base : Path) : ∃ front, (base.join "tally").chars = front ++ "tally".toList := by
    rcases base.join_cases "tally" (by decide) with ⟨-, text⟩ | ⟨front, -, text⟩
    · exact ⟨[], text⟩
    · exact ⟨front ++ ['/'], by rw [text, List.append_assoc]; rfl⟩
  cases keeps <;> exact joined _

end Environment

namespace Path

theorem file_stem_iff (path : Path) (stem : String) :
    path.fileStem? = some stem ↔
      ∃ name, path.EndsIn name ∧ Stems name.toList stem.toList := by
  simp only [fileStem?, Option.map_eq_some_iff, file_name_iff, last_name_iff, stem_iff]

/-- A path that does not end with a slash takes a name behind a slash. -/
theorem join_behind (base : Path) (front last : List Char) (name : String) (filled : last ≠ [])
    (ends : base.chars = front ++ last) (undivided : '/' ∉ last) (whole : '/' ∉ name.toList) :
    (base.join name).text = base.text ++ "/" ++ name := by
  have noSlash : base.chars.getLast? ≠ some '/' := by
    rw [ends, List.getLast?_append_of_ne_nil _ filled]
    exact fun slash => undivided (List.mem_of_getLast? slash)
  rcases base.join_cases name whole with ⟨none, -⟩ | ⟨before, slash | ⟨rfl, -⟩, text⟩
  · rw [none] at ends
    exact absurd (List.append_eq_nil_iff.mp ends.symm).2 filled
  · rw [slash] at noSlash
    simp at noSlash
  · apply String.toList_inj.mp
    rw [← chars, text, String.toList_append, String.toList_append, ← chars, List.append_assoc]
    rfl

end Path

/-- The name of an answers file, which is no dot, no two dots and holds no slash. -/
theorem answers_name (stem : String) (undivided : '/' ∉ stem.toList) :
    Path.IsName (stem ++ ".json").toList := by
  have text : (stem ++ ".json").toList = stem.toList ++ ['.', 'j', 's', 'o', 'n'] :=
    String.toList_append
  apply Path.is_name_of_long
  · rw [text, List.length_append]
    exact Nat.lt_add_left _ (by decide)
  · rw [text, List.mem_append, not_or]
    exact ⟨undivided, by decide⟩

theorem data_directory_ok_iff (environment : Environment) (directory : Path) :
    dataDirectory environment = .ok directory ↔ environment.KeepsData directory := by
  rw [← environment.data_directory_iff, dataDirectory]
  cases environment.dataDirectory? with
  | none => exact iff_of_false nofun nofun
  | some found =>
      show Except.ok found = Except.ok directory ↔ _
      rw [Except.ok.injEq, Option.some.injEq]

structure Environment.Places (environment : Environment) (form : Path) (stem : String)
    (directory : Path) : Prop where
  named : ∃ name, form.EndsIn name ∧ Path.Stems name.toList stem.toList
  keeps : environment.KeepsData directory

/-- The file for a stem in the directory for answers, as it is spelled. -/
def answersBelow (directory : Path) (stem : String) : Path :=
  ⟨directory.text ++ "/answers/" ++ stem ++ ".json"⟩

namespace Environment.Places

variable {environment : Environment} {form : Path} {stem : String} {directory : Path}

theorem undivided (places : environment.Places form stem directory) : '/' ∉ stem.toList := by
  obtain ⟨name, ends, stems⟩ := places.named
  exact stems.undivided ends.1.undivided

/-- The directory for answers and the file in it are joined to the directory for data. -/
theorem joined (places : environment.Places form stem directory) :
    (directory.join "answers").join (stem ++ ".json") = answersBelow directory stem := by
  have isName := answers_name stem places.undivided
  obtain ⟨front, ends⟩ := places.keeps.ends
  have answers : (directory.join "answers").text = directory.text ++ "/" ++ "answers" :=
    directory.join_behind front _ "answers" (by decide) ends (by decide) (by decide)
  have last : (directory.join "answers").chars =
      (directory.text ++ "/").toList ++ "answers".toList := by
    rw [Path.chars, answers, String.toList_append]
  have file := (directory.join "answers").join_behind _ _ (stem ++ ".json") (by decide) last
    (by decide) isName.undivided
  have text : directory.text ++ "/" ++ "answers" ++ "/" ++ (stem ++ ".json") =
      directory.text ++ "/answers/" ++ stem ++ ".json" := by
    simp only [String.append_assoc]
    rfl
  rw [answers, text] at file
  exact congrArg Path.mk file

theorem components (places : environment.Places form stem directory) :
    (answersBelow directory stem).components =
      directory.components ++ [.name "answers", .name (stem ++ ".json")] := by
  have isAnswers : Path.IsName "answers".toList :=
    Path.is_name_of_long _ (by decide) (by decide)
  rw [← places.joined, Path.components_join _ _ (answers_name stem places.undivided),
    Path.components_join _ _ isAnswers, List.append_assoc]
  rfl

end Environment.Places

theorem standard_answers_iff (environment : Environment) (form path : Path) :
    standardAnswers environment form = .ok path ↔
      ∃ stem directory, environment.Places form stem directory ∧
        path = answersBelow directory stem := by
  have opened (stem : String) (isStem : form.fileStem? = some stem) :
      standardAnswers environment form = dataDirectory environment >>= fun directory =>
        .ok ((directory.join "answers").join (stem ++ ".json")) := by
    rw [standardAnswers, isStem]
  constructor
  · intro placed
    cases isStem : form.fileStem? with
    | none =>
        rw [standardAnswers, isStem] at placed
        cases placed
    | some stem =>
        rw [opened stem isStem] at placed
        obtain ⟨directory, found, joined⟩ := ok_of_bind placed
        have places : environment.Places form stem directory :=
          ⟨(form.file_stem_iff stem).mp isStem,
            (data_directory_ok_iff environment directory).mp found⟩
        cases joined
        exact ⟨stem, directory, places, places.joined⟩
  · rintro ⟨stem, directory, places, rfl⟩
    have found := (data_directory_ok_iff environment directory).mpr places.keeps
    rw [opened stem ((form.file_stem_iff stem).mpr places.named), found, ← places.joined]
    rfl

/-- Where the answers of a form go. A path ends in a name if its last component is one. There is a
place for the answers exactly if the path of the form ends in a name and there is a directory for
data; the place is spelled by that directory, the directory for answers and the stem of the name. It
has two components more than the directory for data, so it lies right in the directory for answers
there, whatever dots the name holds and whatever slashes and dots stand behind it. A path that ends
in no name is refused as such, and otherwise only a directory for data can be missing. -/
theorem standard_answers_placed (environment : Environment) (form : Path) :
    (∀ name, form.EndsIn name ↔ form.components.getLast? = some (.name name)) ∧
    (∀ path, standardAnswers environment form = .ok path ↔
      ∃ stem directory, environment.Places form stem directory ∧
        path = ⟨directory.text ++ "/answers/" ++ stem ++ ".json"⟩) ∧
    (∀ stem directory, environment.Places form stem directory →
      (Path.mk (directory.text ++ "/answers/" ++ stem ++ ".json")).components =
        directory.components ++ [.name "answers", .name (stem ++ ".json")]) ∧
    ((∃ path, standardAnswers environment form = .ok path) ↔
      (∃ name, form.EndsIn name) ∧ ∃ directory, environment.KeepsData directory) ∧
    ((∀ name, ¬form.EndsIn name) →
      standardAnswers environment form = failBy (.namelessForm form)) ∧
    ((∃ name, form.EndsIn name) → (∀ directory, ¬environment.KeepsData directory) →
      standardAnswers environment form = failBy .homeless) := by
  have stemmed : (∃ name, form.EndsIn name) → ∃ stem, form.fileStem? = some stem := by
    rintro ⟨name, ends⟩
    obtain ⟨stem, stems⟩ := Path.stems_total name.toList
    refine ⟨String.ofList stem, (form.file_stem_iff _).mpr ⟨name, ends, ?_⟩⟩
    rw [String.toList_ofList]
    exact stems
  refine ⟨fun name => (form.last_name_iff name).symm, standard_answers_iff environment form,
    fun stem directory places => places.components, ⟨?_, ?_⟩, ?_, ?_⟩
  · rintro ⟨path, placed⟩
    obtain ⟨stem, directory, places, -⟩ := (standard_answers_iff environment form path).mp placed
    obtain ⟨name, ends, -⟩ := places.named
    exact ⟨⟨name, ends⟩, directory, places.keeps⟩
  · rintro ⟨named, directory, keeps⟩
    obtain ⟨stem, isStem⟩ := stemmed named
    have places : environment.Places form stem directory :=
      ⟨(form.file_stem_iff stem).mp isStem, keeps⟩
    exact ⟨_, (standard_answers_iff environment form _).mpr ⟨stem, directory, places, rfl⟩⟩
  · intro nameless
    cases isStem : form.fileStem? with
    | none => rw [standardAnswers, isStem]
    | some stem =>
        obtain ⟨name, ends, -⟩ := (form.file_stem_iff stem).mp isStem
        exact absurd ends (nameless name)
  · intro named homeless
    obtain ⟨stem, isStem⟩ := stemmed named
    have missing : environment.dataDirectory? = none := by
      rw [Option.eq_none_iff_forall_ne_some]
      exact fun directory found =>
        homeless directory ((environment.data_directory_iff directory).mp found)
    rw [standardAnswers, isStem, dataDirectory, missing]
    rfl

/-- The stem of three dots and a suffix are two dots, which make no parent directory: the answers
still lie among the others, though slashes and a dot stand behind the name. -/
theorem standard_answers_placed_dots :
    standardAnswers ⟨[("XDG_DATA_HOME", "/data/")], none⟩ ⟨"forms/...toml/.//"⟩ =
        .ok ⟨"/data/tally/answers/...json"⟩ ∧
      (Path.mk "/data/tally/answers/...json").components =
        [.root, .name "data", .name "tally", .name "answers", .name "...json"] ∧
      standardAnswers ⟨[("XDG_DATA_HOME", "data")], none⟩ ⟨"forms/...toml/.//"⟩ =
        failBy .homeless ∧
      standardAnswers ⟨[], some "/root"⟩ ⟨"forms/.."⟩ = failBy (.namelessForm ⟨"forms/.."⟩) := by
  obtain ⟨ends, placed, inside, -, -, -⟩ :=
    standard_answers_placed ⟨[("XDG_DATA_HOME", "/data/")], none⟩ ⟨"forms/...toml/.//"⟩
  have places : Environment.Places ⟨[("XDG_DATA_HOME", "/data/")], none⟩ ⟨"forms/...toml/.//"⟩
      ".." ⟨"/data/tally"⟩ := by
    refine ⟨⟨"...toml", (ends "...toml").mpr (by decide +kernel), ?_⟩, ?_⟩
    · exact .cut ['.', '.'] ['t', 'o', 'm', 'l'] (by decide) (by decide)
    · exact .named "/data/" rfl rfl
  obtain ⟨unended, -, -, -, -, homeless⟩ :=
    standard_answers_placed ⟨[("XDG_DATA_HOME", "data")], none⟩ ⟨"forms/...toml/.//"⟩
  obtain ⟨nameless, -, -, -, refused, -⟩ :=
    standard_answers_placed ⟨[], some "/root"⟩ ⟨"forms/.."⟩
  refine ⟨(placed _).mpr ⟨_, _, places, rfl⟩, inside _ _ places, ?_, ?_⟩
  · refine homeless ⟨"...toml", (unended "...toml").mpr (by decide +kernel)⟩ ?_
    intro directory keeps
    cases keeps with
    | named text set absolute =>
        cases set
        cases absolute
    | below home unnamed found => cases found
  · refine refused fun name ended => ?_
    have last : some Path.Component.parent = some (.name name) := (nameless name).mp ended
    cases last

end CounterForms
