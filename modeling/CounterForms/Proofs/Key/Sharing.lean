import CounterForms.Failure
import CounterForms.Proofs.Entries
import CounterForms.Proofs.Key.Dispatch
import Mathlib.Data.List.Nodup

/-!
Chords that several actions share. Texts that are all read are accepted exactly if they give every
action a chord of its own. Otherwise each shared chord is reported once, with all actions that are
bound to it; the lines of the report are sorted, so it is the same in whatever order the chords are
gone through. A text that is not read is reported before any sharing, and of several the first.
-/

namespace CounterForms

namespace Action

def place (action : Action) : Nat := all.idxOf action

theorem all_distinct : all.Nodup := by decide

theorem all_in_order : all.Pairwise fun one other => one.place < other.place := by decide

/-- No name of an action ends in the name of another one. -/
theorem name_ends (one other : Action) (ends : one.name.toList <:+ other.name.toList) :
    one = other := by
  revert ends
  cases one <;> cases other <;> decide

end Action

def inOrder (one other : String) : Bool := !decide (other < one)

theorem sorted_in_order (lines : List String) : (lines.mergeSort inOrder).Pairwise (· ≤ ·) :=
  sorted_by_name id lines

/-- Texts are sorted to the same list in whatever order they are given. -/
theorem sorted_of_perm (lines others : List String) (same : lines.Perm others) :
    lines.mergeSort inOrder = others.mergeSort inOrder := by
  have permuted : (lines.mergeSort inOrder).Perm (others.mergeSort inOrder) :=
    (List.mergeSort_perm lines inOrder).trans
      (same.trans (List.mergeSort_perm others inOrder).symm)
  apply permuted.eq_of_pairwise _ (sorted_in_order lines) (sorted_in_order others)
  intro one other _ _ first second
  exact String.le_antisymm first second

def sharedLines (conflicts : List SharedChord) : List String :=
  (conflicts.map SharedChord.line).mergeSort inOrder

theorem shared_message_eq (conflicts : List SharedChord) :
    sharedMessage conflicts =
      "Duplicate key bindings detected:\n  " ++ "\n  ".intercalate (sharedLines conflicts) := rfl

theorem shared_message_of_perm (conflicts others : List SharedChord)
    (same : conflicts.Perm others) : sharedMessage conflicts = sharedMessage others := by
  have sorted : sharedLines conflicts = sharedLines others :=
    sorted_of_perm _ _ (same.map SharedChord.line)
  rw [shared_message_eq, shared_message_eq, sorted]

/-- The name of the last action stands at the end of the line. -/
theorem SharedChord.line_ends (shared : SharedChord) (earlier : List Action) (last : Action)
    (actions : shared.actions = earlier ++ [last]) :
    last.name.toList <:+ shared.line.toList := by
  have listed :
      last.name.toList <:+ (", ".intercalate (shared.actions.map Action.name)).toList := by
    rw [actions, List.map_append, List.map_singleton]
    cases earlier with
    | nil =>
        have alone : ", ".intercalate [last.name] = last.name := String.intercalate_singleton
        exact alone.symm ▸ List.suffix_rfl
    | cons first others =>
        rw [String.intercalate_append_of_ne_nil (by simp) (by simp), String.intercalate_singleton,
          String.toList_append]
        exact List.suffix_append _ _
  rw [SharedChord.line, String.toList_append]
  exact listed.trans (List.suffix_append _ _)

namespace Bindings

/-- The actions of a shared chord are two or more. They are all that are bound to the chord, each
once, in the order in which actions are declared. -/
structure Shares (bindings : Bindings) (shared : SharedChord) : Prop where
  several : 1 < shared.actions.length
  ordered : shared.actions.Sublist Action.all
  bound : ∀ action, action ∈ shared.actions ↔ bindings action = shared.chord

variable (bindings : Bindings)

/-- Some of all actions, in their order, are told by which they are. -/
theorem actions_of_eq (chord : Chord) (actions : List Action)
    (ordered : actions.Sublist Action.all)
    (bound : ∀ action, action ∈ actions ↔ bindings action = chord) :
    actions = bindings.actionsOf chord := by
  have within : (bindings.actionsOf chord).Sublist Action.all := List.filter_sublist
  have permuted : actions.Perm (bindings.actionsOf chord) := by
    rw [List.perm_ext_iff_of_nodup (ordered.nodup Action.all_distinct)
      (within.nodup Action.all_distinct)]
    intro action
    rw [bound, bindings.mem_actions_of]
  apply permuted.eq_of_pairwise _ (Action.all_in_order.sublist ordered)
    (Action.all_in_order.sublist within)
  intro one other _ _ first second
  omega

theorem shares_iff (shared : SharedChord) :
    bindings.Shares shared ↔
      shared.actions = bindings.actionsOf shared.chord ∧ 1 < shared.actions.length := by
  constructor
  · intro shares
    exact ⟨bindings.actions_of_eq _ _ shares.ordered shares.bound, shares.several⟩
  · rintro ⟨actions, several⟩
    refine ⟨several, ?_, fun action => ?_⟩
    · rw [actions]
      exact List.filter_sublist
    · rw [actions]
      exact bindings.mem_actions_of shared.chord action

/-- A chord is reported at the first of the actions that share it. -/
theorem reported_at_iff (action : Action) (shared : SharedChord) :
    (match bindings.actionsOf (bindings action) with
      | first :: second :: others =>
          if first = action then some (SharedChord.mk (bindings action) (first :: second :: others))
          else none
      | _ => none) = some shared ↔
      bindings.Shares shared ∧ shared.actions.head? = some action := by
  rw [shares_iff]
  obtain ⟨chord, actions⟩ := shared
  dsimp only
  constructor
  · intro reported
    split at reported
    next first second others held =>
      split at reported
      next isFirst =>
        cases reported
        exact ⟨⟨held.symm, by simp⟩, congrArg some isFirst⟩
      next => cases reported
    next => cases reported
  · rintro ⟨⟨rfl, several⟩, isFirst⟩
    have bound : bindings action = chord :=
      (bindings.mem_actions_of chord action).mp (List.mem_of_head? isFirst)
    rw [bound]
    split
    next first second others held =>
      rw [held] at isFirst
      rw [if_pos (Option.some.inj isFirst), held]
    next few =>
      match held : bindings.actionsOf chord with
      | [] | [_] => simp [held] at several
      | first :: second :: others => exact absurd held (few first second others)

theorem mem_conflicts (shared : SharedChord) :
    shared ∈ bindings.conflicts ↔ bindings.Shares shared := by
  unfold conflicts
  rw [List.mem_filterMap]
  constructor
  · rintro ⟨action, -, reported⟩
    exact ((bindings.reported_at_iff action shared).mp reported).1
  · intro shares
    have several := shares.several
    match held : shared.actions with
    | [] => simp [held] at several
    | first :: others =>
        refine ⟨first, first.mem_all, (bindings.reported_at_iff first shared).mpr ⟨shares, ?_⟩⟩
        rw [held, List.head?_cons]

theorem conflicts_distinct : bindings.conflicts.Nodup := by
  unfold conflicts
  apply Action.all_distinct.filterMap
  intro one other shared oneReports otherReports
  have first := ((bindings.reported_at_iff one shared).mp oneReports).2
  have second := ((bindings.reported_at_iff other shared).mp otherReports).2
  exact Option.some.inj (first.symm.trans second)

variable {bindings}

/-- A line of a report tells the chord and the actions. -/
theorem Shares.line_injective {one other : SharedChord} (first : bindings.Shares one)
    (second : bindings.Shares other) (same : one.line = other.line) : one = other := by
  have filled {shared : SharedChord} (shares : bindings.Shares shared) :
      ∃ earlier last, shared.actions = earlier ++ [last] := by
    have several := shares.several
    rcases List.eq_nil_or_concat shared.actions with none | ⟨earlier, last, held⟩
    · simp [none] at several
    · exact ⟨earlier, last, held.trans List.concat_eq_append⟩
  obtain ⟨earlier, last, actions⟩ := filled first
  obtain ⟨otherEarlier, otherLast, otherActions⟩ := filled second
  have ends := one.line_ends earlier last actions
  have otherEnds := other.line_ends otherEarlier otherLast otherActions
  rw [same] at ends
  -- Of two names at the end of one line one ends in the other, so they are the same name.
  have sameLast : last = otherLast := by
    rcases List.suffix_or_suffix_of_suffix ends otherEnds with within | within
    · exact Action.name_ends _ _ within
    · exact (Action.name_ends _ _ within).symm
  have chord : bindings last = one.chord := (first.bound last).mp (by simp [actions])
  have otherChord : bindings otherLast = other.chord :=
    (second.bound otherLast).mp (by simp [otherActions])
  have sameChord : one.chord = other.chord := by rw [← chord, sameLast, otherChord]
  have held := ((bindings.shares_iff one).mp first).1
  have otherHeld := ((bindings.shares_iff other).mp second).1
  cases one
  cases other
  simp_all

variable (bindings)

/-- The lines of the report are in strict order, so no line comes twice. -/
theorem conflicts_lines : (sharedLines bindings.conflicts).Pairwise (· < ·) := by
  have distinct : (sharedLines bindings.conflicts).Nodup := by
    rw [sharedLines, (List.mergeSort_perm _ _).nodup_iff]
    apply bindings.conflicts_distinct.map_on
    intro one oneHeld other otherHeld same
    exact ((bindings.mem_conflicts one).mp oneHeld).line_injective
      ((bindings.mem_conflicts other).mp otherHeld) same
  have sorted := sorted_in_order (bindings.conflicts.map SharedChord.line)
  apply sorted.imp₂ _ distinct
  intro one other ordered apart
  apply String.not_le.mp
  intro back
  exact apart (String.le_antisymm ordered back)

/-- The shared ones among some chords, each with its actions. -/
def sharedAmong (chords : List Chord) : List SharedChord :=
  (chords.map fun chord => SharedChord.mk chord (bindings.actionsOf chord)).filter fun shared =>
    1 < shared.actions.length

theorem mem_shared_among (chords : List Chord) (complete : ∀ action, bindings action ∈ chords)
    (shared : SharedChord) :
    shared ∈ bindings.sharedAmong chords ↔ bindings.Shares shared := by
  rw [sharedAmong, List.mem_filter, decide_eq_true_eq, shares_iff, List.mem_map]
  constructor
  · rintro ⟨⟨chord, -, rfl⟩, several⟩
    exact ⟨rfl, several⟩
  · rintro ⟨actions, several⟩
    refine ⟨⟨shared.chord, ?_, ?_⟩, several⟩
    · obtain ⟨action, held⟩ := List.exists_mem_of_length_pos (Nat.zero_lt_of_lt several)
      rw [actions, bindings.mem_actions_of] at held
      exact held ▸ complete action
    · rw [← actions]

/-- In whatever order the bound chords are gone through, the same ones are found to be shared. -/
theorem shared_among_perm (chords : List Chord) (distinct : chords.Nodup)
    (complete : ∀ action, bindings action ∈ chords) :
    (bindings.sharedAmong chords).Perm bindings.conflicts := by
  have apart : (bindings.sharedAmong chords).Nodup := by
    apply List.Nodup.filter
    apply distinct.map
    intro one other same
    exact congrArg SharedChord.chord same
  rw [List.perm_ext_iff_of_nodup apart bindings.conflicts_distinct]
  intro shared
  rw [bindings.mem_shared_among chords complete, bindings.mem_conflicts]

theorem conflicts_none_iff : bindings.conflicts = [] ↔ Function.Injective bindings := by
  refine ⟨bindings.injective_of_conflicts, fun distinct => ?_⟩
  apply List.eq_nil_iff_forall_not_mem.mpr
  intro shared reported
  have shares := (bindings.mem_conflicts shared).mp reported
  have several := shares.several
  match held : shared.actions with
  | [] | [_] => simp [held] at several
  | one :: other :: _ =>
      have first := (shares.bound one).mp (by simp [held])
      have second := (shares.bound other).mp (by simp [held])
      have apart := shares.ordered.nodup Action.all_distinct
      rw [held, distinct (first.trans second.symm)] at apart
      simp at apart

variable {bindings}

theorem read_chord_fault (texts : BindingTexts) (action : Action) (fault : BindingFault) :
    faultOf? (readChord texts action) = some fault ↔
      ∃ cause, Chord.ofText (texts action) = .error cause ∧
        fault = .chord action (texts action) cause := by
  unfold readChord
  cases Chord.ofText (texts action) with
  | error cause => simp [Except.mapError, faultOf?, eq_comm]
  | ok chord => simp [Except.mapError, faultOf?]

theorem read_chord_none (texts : BindingTexts) (action : Action) :
    faultOf? (readChord texts action) = none ↔
      ∃ chord, Chord.ofText (texts action) = .ok chord := by
  unfold readChord
  cases Chord.ofText (texts action) <;> simp [Except.mapError, faultOf?]

/-- The first fault of a step and what comes behind it. -/
theorem fault_of_step {Content : Type} (texts : BindingTexts) (action : Action)
    (later : List Action) (next : Chord → Except BindingFault Content)
    (behind : ∀ chord, faultOf? (next chord) =
      later.findSome? fun other => faultOf? (readChord texts other)) :
    faultOf? (readChord texts action >>= next) =
      (action :: later).findSome? fun other => faultOf? (readChord texts other) := by
  rw [List.findSome?_cons]
  cases readChord texts action with
  | error fault => rfl
  | ok chord => exact behind chord

/-- Of the texts that are not read the first one is reported. -/
theorem fault_of_read_chords (texts : BindingTexts) :
    faultOf? (readChords texts) =
      Action.all.findSome? fun action => faultOf? (readChord texts action) := by
  unfold readChords Action.all
  apply fault_of_step
  intro back
  apply fault_of_step
  intro selectPrevious
  apply fault_of_step
  intro selectNext
  apply fault_of_step
  intro increase
  apply fault_of_step
  intro decrease
  apply fault_of_step
  intro clear
  apply fault_of_step
  intro save
  rfl

/-- Each text is read as the chord of its action. -/
def Reads (texts : BindingTexts) (bindings : Bindings) : Prop :=
  ∀ action, Chord.ofText (texts action) = .ok (bindings action)

/-- The text of an action is not read, while those of all actions before it are. -/
def FirstUnread (texts : BindingTexts) (action : Action) (cause : ChordFault) : Prop :=
  ∃ before later, Action.all = before ++ action :: later ∧
    Chord.ofText (texts action) = .error cause ∧
    ∀ earlier ∈ before, ∃ chord, Chord.ofText (texts earlier) = .ok chord

theorem read_chords_of_reads (texts : BindingTexts) (reads : Reads texts bindings) :
    readChords texts = .ok bindings := by
  have none : faultOf? (readChords texts) = none := by
    rw [fault_of_read_chords, List.findSome?_eq_none_iff]
    intro action _
    exact (read_chord_none texts action).mpr ⟨_, reads action⟩
  obtain ⟨held, read⟩ := (fault_of_none _).mp none
  have same : held = bindings := by
    funext action
    have again := read_chords_ok texts held read action
    rw [reads action] at again
    exact (Except.ok.inj again).symm
  rw [read, same]

theorem read_chords_unread (texts : BindingTexts) (fault : BindingFault) :
    readChords texts = .error fault ↔
      ∃ action cause, FirstUnread texts action cause ∧
        fault = .chord action (texts action) cause := by
  rw [← fault_of_some, fault_of_read_chords, List.findSome?_eq_some_iff]
  constructor
  · rintro ⟨before, action, later, split, refused, read⟩
    obtain ⟨cause, unread, rfl⟩ := (read_chord_fault texts action fault).mp refused
    refine ⟨action, cause, ⟨before, later, split, unread, fun earlier member => ?_⟩, rfl⟩
    exact (read_chord_none texts earlier).mp (read earlier member)
  · rintro ⟨action, cause, ⟨before, later, split, unread, read⟩, rfl⟩
    refine ⟨before, action, later, split, ?_, fun earlier member => ?_⟩
    · exact (read_chord_fault texts action _).mpr ⟨cause, unread, rfl⟩
    · exact (read_chord_none texts earlier).mpr (read earlier member)

/-- Texts that are read are accepted if no chord is shared. -/
theorem of_texts_read (texts : BindingTexts) (bindings : Bindings)
    (read : readChords texts = .ok bindings) :
    ofTexts texts =
      if bindings.conflicts = [] then .ok bindings else .error (.shared bindings.conflicts) := by
  rw [ofTexts, read]
  cases held : bindings.conflicts with
  | nil =>
      rw [if_pos rfl]
      simp only [bind, Except.bind, held]
      rfl
  | cons first others =>
      rw [if_neg nofun]
      simp only [bind, Except.bind, held]
      rfl

/-- What becomes of the texts of all actions. If each is read they are accepted exactly if no two
actions get one chord, however the texts spell it. If some do, the message has exactly one line for
every chord that two or more actions share, with all these actions in the order of declaration; the
lines are sorted, none comes twice, and the message is the same in whatever order the bound chords
are gone through. If some text is not read, the first one in the order of declaration is reported,
with its action. -/
theorem texts_judged (texts : BindingTexts) :
    (∀ bindings, Reads texts bindings →
      (ofTexts texts = .ok bindings ↔ Function.Injective bindings) ∧
      (¬Function.Injective bindings → ∃ conflicts lines,
        ofTexts texts = .error (.shared conflicts) ∧
        (∀ shared, shared ∈ conflicts ↔ bindings.Shares shared) ∧ conflicts.Nodup ∧
        bindingMessages (.shared conflicts) =
          ["Duplicate key bindings detected:\n  " ++ "\n  ".intercalate lines] ∧
        lines.Perm (conflicts.map SharedChord.line) ∧ lines.Pairwise (· < ·) ∧
        ∀ chords : List Chord, chords.Nodup → (∀ action, bindings action ∈ chords) →
          sharedMessage (bindings.sharedAmong chords) = sharedMessage conflicts)) ∧
    ((∃ action cause, Chord.ofText (texts action) = .error cause) →
      ∃ action cause, FirstUnread texts action cause ∧
        ofTexts texts = .error (.chord action (texts action) cause) ∧
        bindingMessages (.chord action (texts action) cause) =
          ["Failed to parse '" ++ action.name ++ "' keybinding '" ++ texts action ++ "'",
            cause.message]) := by
  constructor
  · intro bindings reads
    have read := read_chords_of_reads texts reads
    rw [of_texts_read texts bindings read, ← bindings.conflicts_none_iff]
    by_cases none : bindings.conflicts = []
    · rw [if_pos none]
      exact ⟨iff_of_true rfl none, fun some => absurd none some⟩
    · rw [if_neg none]
      refine ⟨iff_of_false nofun none, fun _ => ?_⟩
      refine ⟨bindings.conflicts, sharedLines bindings.conflicts, rfl,
        bindings.mem_conflicts, bindings.conflicts_distinct, ?_, ?_, bindings.conflicts_lines, ?_⟩
      · rw [bindingMessages, shared_message_eq]
      · exact List.mergeSort_perm _ _
      · intro chords distinct complete
        exact shared_message_of_perm _ _ (bindings.shared_among_perm chords distinct complete)
  · rintro ⟨other, otherCause, refused⟩
    cases read : readChords texts with
    | ok bindings =>
        have accepted := read_chords_ok texts bindings read other
        rw [refused] at accepted
        cases accepted
    | error fault =>
        obtain ⟨action, cause, unread, rfl⟩ := (read_chords_unread texts fault).mp read
        refine ⟨action, cause, unread, ?_, rfl⟩
        rw [ofTexts, read]
        rfl

def aliasTexts : BindingTexts
  | .increase => "K"
  | .decrease => "<S-k>"
  | .clear => "<return>"
  | .save => "<enter>"
  | other => BindingTexts.standard other

def aliasBindings : Bindings
  | .back => ⟨.escape, {}⟩
  | .selectPrevious => ⟨.up, {}⟩
  | .selectNext => ⟨.down, {}⟩
  | .increase => ⟨.character 'k', { shift := true }⟩
  | .decrease => ⟨.character 'k', { shift := true }⟩
  | .clear => ⟨.enter, {}⟩
  | .save => ⟨.enter, {}⟩

def unreadTexts : BindingTexts :=
  (aliasTexts.replace .selectNext "<C-nope>").replace .clear ""

def aliasLines : List String :=
  ["'S-k' is bound to: increase, decrease", "'enter' is bound to: clear, save"]

theorem texts_judged_aliases :
    (∃ conflicts, ofTexts aliasTexts = .error (.shared conflicts) ∧ conflicts.length = 2 ∧
      bindingMessages (.shared conflicts) =
        ["Duplicate key bindings detected:\n  " ++ "\n  ".intercalate aliasLines]) ∧
    ∃ action cause, FirstUnread unreadTexts action cause ∧
      bindingMessages (.chord action (unreadTexts action) cause) =
        ["Failed to parse 'select_next' keybinding '<C-nope>'", "Unknown key: 'nope'"] := by
  have reads : Reads aliasTexts aliasBindings := by
    intro action
    apply ok_of_to_option
    cases action <;> decide +kernel
  have shared : ¬Function.Injective aliasBindings := by
    intro distinct
    have same : Action.increase = Action.decrease := distinct rfl
    cases same
  have reported : faultOf? (ofTexts aliasTexts) =
      some (.shared [⟨aliasBindings .increase, [.increase, .decrease]⟩,
        ⟨aliasBindings .clear, [.clear, .save]⟩]) := by decide +kernel
  have refused : faultOf? (Chord.ofText (unreadTexts .clear)) = some .empty := by decide +kernel
  have unreadMessage : (faultOf? (ofTexts unreadTexts)).map bindingMessages =
      some ["Failed to parse 'select_next' keybinding '<C-nope>'", "Unknown key: 'nope'"] := by
    decide +kernel
  constructor
  · obtain ⟨conflicts, lines, refusal, -, -, message, perm, sorted, -⟩ :=
      ((texts_judged aliasTexts).1 aliasBindings reads).2 shared
    rw [refusal] at reported
    cases Option.some.inj reported
    have known : lines = aliasLines := by
      have written : lines.Perm aliasLines := perm
      apply written.eq_of_pairwise _ sorted (by decide)
      intro one other _ _ first second
      exact absurd second (String.lt_asymm first)
    rw [known] at message
    exact ⟨_, refusal, rfl, message⟩
  · obtain ⟨action, cause, unread, refusal, -⟩ :=
      (texts_judged unreadTexts).2 ⟨.clear, .empty, (fault_of_some _ _).mp refused⟩
    rw [refusal] at unreadMessage
    exact ⟨action, cause, unread, Option.some.inj unreadMessage⟩

end Bindings

end CounterForms
