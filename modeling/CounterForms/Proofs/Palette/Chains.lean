import CounterForms.Proofs.Palette.Resolved

/-!
What a part of the screen falls back on. A part has a chain of texts: its own one, for hints and
enabled buttons the one of the counter, and a base. The first of them that names a colour decides,
and if none does, the colour of last resort holds. So a base shows in a part exactly if the part
ends in that base and all nearer texts are blank.
-/

namespace CounterForms

inductive PaletteEntry
  | borders
  | text
  | background
  | textCounter
  | highlightsText
  | highlightsBackground
  | bordersList
  | bordersCounter
  | bordersStatus
  | textList
  | textHint
  | textStatus
  | buttonEnabled
  | buttonDisabled
  | backgroundList
  | backgroundCounter
  | backgroundStatus
deriving DecidableEq

inductive PaletteBase
  | borders
  | text
  | background
deriving DecidableEq

inductive PalettePart
  | highlightsText
  | highlightsBackground
  | bordersList
  | bordersCounter
  | bordersStatus
  | textList
  | textCounter
  | textHint
  | textStatus
  | buttonEnabled
  | buttonDisabled
  | background
  | backgroundList
  | backgroundCounter
  | backgroundStatus
deriving DecidableEq

def PaletteEntry.inReadingOrder : List PaletteEntry :=
  [.borders, .text, .background, .textCounter, .highlightsText, .highlightsBackground,
    .bordersList, .bordersCounter, .bordersStatus, .textList, .textHint, .textStatus,
    .buttonEnabled, .buttonDisabled, .backgroundList, .backgroundCounter, .backgroundStatus]

theorem PaletteEntry.mem_reading_order (entry : PaletteEntry) : entry ∈ inReadingOrder := by
  cases entry <;> decide

def PaletteTexts.entry (texts : PaletteTexts) : PaletteEntry → String
  | .borders => texts.borders
  | .text => texts.text
  | .background => texts.background
  | .textCounter => texts.textCounter
  | .highlightsText => texts.highlightsText
  | .highlightsBackground => texts.highlightsBackground
  | .bordersList => texts.bordersList
  | .bordersCounter => texts.bordersCounter
  | .bordersStatus => texts.bordersStatus
  | .textList => texts.textList
  | .textHint => texts.textHint
  | .textStatus => texts.textStatus
  | .buttonEnabled => texts.buttonEnabled
  | .buttonDisabled => texts.buttonDisabled
  | .backgroundList => texts.backgroundList
  | .backgroundCounter => texts.backgroundCounter
  | .backgroundStatus => texts.backgroundStatus

def Palette.color (palette : Palette) : PalettePart → Color
  | .highlightsText => palette.highlightsText
  | .highlightsBackground => palette.highlightsBackground
  | .bordersList => palette.bordersList
  | .bordersCounter => palette.bordersCounter
  | .bordersStatus => palette.bordersStatus
  | .textList => palette.textList
  | .textCounter => palette.textCounter
  | .textHint => palette.textHint
  | .textStatus => palette.textStatus
  | .buttonEnabled => palette.buttonEnabled
  | .buttonDisabled => palette.buttonDisabled
  | .background => palette.background
  | .backgroundList => palette.backgroundList
  | .backgroundCounter => palette.backgroundCounter
  | .backgroundStatus => palette.backgroundStatus

def PaletteBase.entry : PaletteBase → PaletteEntry
  | .borders => .borders
  | .text => .text
  | .background => .background

def PaletteTexts.replaceBase (texts : PaletteTexts) (base : PaletteBase) (text : String) :
    PaletteTexts :=
  match base with
  | .borders => { texts with borders := text }
  | .text => { texts with text := text }
  | .background => { texts with background := text }

namespace PalettePart

/-- The base that a part falls back on; the highlights and disabled buttons have none. -/
def base? : PalettePart → Option PaletteBase
  | .highlightsText | .highlightsBackground | .buttonDisabled => none
  | .bordersList | .bordersCounter | .bordersStatus => some .borders
  | .textList | .textCounter | .textHint | .textStatus | .buttonEnabled => some .text
  | .background | .backgroundList | .backgroundCounter | .backgroundStatus => some .background

/-- The texts that come before the base, the nearest first. The own text of the background is a base
itself. -/
def nearer : PalettePart → List PaletteEntry
  | .highlightsText => [.highlightsText]
  | .highlightsBackground => [.highlightsBackground]
  | .bordersList => [.bordersList]
  | .bordersCounter => [.bordersCounter]
  | .bordersStatus => [.bordersStatus]
  | .textList => [.textList]
  | .textCounter => [.textCounter]
  | .textHint => [.textHint, .textCounter]
  | .textStatus => [.textStatus]
  | .buttonEnabled => [.buttonEnabled, .textCounter]
  | .buttonDisabled => [.buttonDisabled]
  | .background => []
  | .backgroundList => [.backgroundList]
  | .backgroundCounter => [.backgroundCounter]
  | .backgroundStatus => [.backgroundStatus]

def chain (part : PalettePart) : List PaletteEntry :=
  part.nearer ++ (part.base?.map PaletteBase.entry).toList

def lastResort : PalettePart → Color
  | .buttonDisabled => .darkGray
  | _ => .reset

end PalettePart

/-- The first text of a chain that names a colour names this one; or none does, and it is the last
resort. -/
inductive PaletteTexts.LeadsTo (texts : PaletteTexts) (lastResort : Color) :
    List PaletteEntry → Color → Prop
  | named {entry : PaletteEntry} {color : Color} (farther : List PaletteEntry)
      (names : Color.ofText? (texts.entry entry) = .ok (some color)) :
      LeadsTo texts lastResort (entry :: farther) color
  | blank {entry : PaletteEntry} {farther : List PaletteEntry} {color : Color}
      (isBlank : Color.ofText? (texts.entry entry) = .ok none)
      (leads : LeadsTo texts lastResort farther color) :
      LeadsTo texts lastResort (entry :: farther) color
  | atEnd : LeadsTo texts lastResort [] lastResort

namespace PaletteTexts

theorem LeadsTo.nearer {texts : PaletteTexts} {lastResort fallback color : Color}
    {farther : List PaletteEntry} (entry : PaletteEntry)
    (reads : Color.ofTextOr fallback (texts.entry entry) = .ok color)
    (leads : texts.LeadsTo lastResort farther fallback) :
    texts.LeadsTo lastResort (entry :: farther) color := by
  obtain ⟨named, isNamed, isColor⟩ := ok_of_bind reads
  cases named with
  | none =>
      cases isColor
      exact .blank isNamed leads
  | some own =>
      cases isColor
      exact .named farther isNamed

theorem LeadsTo.unique {texts : PaletteTexts} {lastResort color other : Color}
    {chain : List PaletteEntry} (leads : texts.LeadsTo lastResort chain color)
    (leadsOther : texts.LeadsTo lastResort chain other) : color = other := by
  induction leads with
  | named farther names =>
      cases leadsOther with
      | named _ otherNames => simpa [names] using otherNames
      | blank isBlank _ => simp [names] at isBlank
  | blank isBlank _ ih =>
      cases leadsOther with
      | named _ otherNames => simp [isBlank] at otherNames
      | blank _ leadsFarther => exact ih leadsFarther
  | atEnd =>
      cases leadsOther
      rfl

theorem LeadsTo.of_agree {texts changed : PaletteTexts} {lastResort color : Color}
    {chain : List PaletteEntry} (agree : ∀ entry ∈ chain, changed.entry entry = texts.entry entry)
    (leads : texts.LeadsTo lastResort chain color) : changed.LeadsTo lastResort chain color := by
  induction leads with
  | named farther names => exact .named farther (by rwa [agree _ (List.mem_cons_self ..)])
  | blank isBlank _ ih =>
      exact .blank (by rwa [agree _ (List.mem_cons_self ..)])
        (ih fun entry isFarther => agree entry (List.mem_cons_of_mem _ isFarther))
  | atEnd => exact .atEnd

/-- The colour at the end of a chain shows at its start exactly if all texts between are blank. -/
theorem shows_through {texts changed : PaletteTexts} {lastResort before after color other : Color}
    {base : List PaletteEntry} (differ : after ≠ before)
    (atBase : ∀ shown, texts.LeadsTo lastResort base shown ↔ shown = before)
    (atChanged : ∀ shown, changed.LeadsTo lastResort base shown ↔ shown = after)
    (nearer : List PaletteEntry)
    (agree : ∀ entry ∈ nearer, changed.entry entry = texts.entry entry)
    (leads : texts.LeadsTo lastResort (nearer ++ base) color)
    (leadsChanged : changed.LeadsTo lastResort (nearer ++ base) other) :
    other ≠ color ↔ ∀ entry ∈ nearer, Color.ofText? (texts.entry entry) = .ok none := by
  induction nearer with
  | nil =>
      rw [(atBase color).mp leads, (atChanged other).mp leadsChanged]
      simpa using differ
  | cons nearest farther ih =>
      have same := agree nearest (List.mem_cons_self ..)
      cases leads with
      | named _ names =>
          have kept := leadsChanged.unique (.named _ (same.symm ▸ names))
          simp [kept, names]
      | blank isBlank leadsFarther =>
          cases leadsChanged with
          | named _ names => simp [same, isBlank] at names
          | blank _ leadsChangedFarther =>
              rw [ih (fun entry isFarther => agree entry (List.mem_cons_of_mem _ isFarther))
                leadsFarther leadsChangedFarther]
              simp [isBlank]

theorem replace_base_entry (texts : PaletteTexts) (base : PaletteBase) (text : String) :
    (texts.replaceBase base text).entry base.entry = text := by
  cases base <;> rfl

theorem replace_base_spares (texts : PaletteTexts) (base : PaletteBase) (text : String)
    (entry : PaletteEntry) (apart : entry ≠ base.entry) :
    (texts.replaceBase base text).entry entry = texts.entry entry := by
  cases base <;> cases entry <;> first | rfl | exact absurd rfl apart

end PaletteTexts

namespace PalettePart

theorem base_not_nearer (part : PalettePart) (base : PaletteBase) :
    base.entry ∉ part.nearer := by
  cases part <;> cases base <;> decide

theorem nearer_apart (part : PalettePart) (base : PaletteBase) (entry : PaletteEntry)
    (isNearer : entry ∈ part.nearer) : entry ≠ base.entry := by
  rintro rfl
  exact part.base_not_nearer base isNearer

theorem last_resort_of_base (part : PalettePart) (base : PaletteBase)
    (falls : part.base? = some base) : part.lastResort = .reset := by
  cases part <;> first | rfl | cases falls

theorem chain_of_base (part : PalettePart) (base : PaletteBase) (falls : part.base? = some base) :
    part.chain = part.nearer ++ [base.entry] := by
  simp [chain, falls]

/-- A base is nowhere on the chains that end in another one or in none. -/
theorem base_off_chain (part : PalettePart) (base : PaletteBase) (other : part.base? ≠ some base)
    (entry : PaletteEntry) (onChain : entry ∈ part.chain) : entry ≠ base.entry := by
  obtain isNearer | isBase := List.mem_append.mp onChain
  · exact part.nearer_apart base entry isNearer
  · obtain ⟨own, falls, rfl⟩ : ∃ own, part.base? = some own ∧ own.entry = entry := by
      simpa using isBase
    rintro same
    apply other
    rw [falls]
    cases own <;> cases base <;> first | rfl | cases same

end PalettePart

namespace Palette

theorem reading_order_entries (texts : PaletteTexts) :
    texts.inReadingOrder = PaletteEntry.inReadingOrder.map texts.entry := rfl

theorem resolved_iff (texts : PaletteTexts) :
    (∃ palette, Palette.ofTexts texts = .ok palette) ↔
      ∀ entry, Color.Reads (texts.entry entry) := by
  rw [← fault_of_none, palette_fault, first_fault_none, reading_order_entries]
  simp [PaletteEntry.mem_reading_order]

theorem color_of_chain (texts : PaletteTexts) (palette : Palette)
    (resolved : Palette.ofTexts texts = .ok palette) (part : PalettePart) :
    texts.LeadsTo part.lastResort part.chain (palette.color part) := by
  unfold Palette.ofTexts at resolved
  obtain ⟨borders, readsBorders, resolved⟩ := ok_of_bind resolved
  obtain ⟨text, readsText, resolved⟩ := ok_of_bind resolved
  obtain ⟨background, readsBackground, resolved⟩ := ok_of_bind resolved
  obtain ⟨textCounter, readsTextCounter, resolved⟩ := ok_of_bind resolved
  obtain ⟨highlightsText, readsHighlightsText, resolved⟩ := ok_of_bind resolved
  obtain ⟨highlightsBackground, readsHighlightsBackground, resolved⟩ := ok_of_bind resolved
  obtain ⟨bordersList, readsBordersList, resolved⟩ := ok_of_bind resolved
  obtain ⟨bordersCounter, readsBordersCounter, resolved⟩ := ok_of_bind resolved
  obtain ⟨bordersStatus, readsBordersStatus, resolved⟩ := ok_of_bind resolved
  obtain ⟨textList, readsTextList, resolved⟩ := ok_of_bind resolved
  obtain ⟨textHint, readsTextHint, resolved⟩ := ok_of_bind resolved
  obtain ⟨textStatus, readsTextStatus, resolved⟩ := ok_of_bind resolved
  obtain ⟨buttonEnabled, readsButtonEnabled, resolved⟩ := ok_of_bind resolved
  obtain ⟨buttonDisabled, readsButtonDisabled, resolved⟩ := ok_of_bind resolved
  obtain ⟨backgroundList, readsBackgroundList, resolved⟩ := ok_of_bind resolved
  obtain ⟨backgroundCounter, readsBackgroundCounter, resolved⟩ := ok_of_bind resolved
  obtain ⟨backgroundStatus, readsBackgroundStatus, resolved⟩ := ok_of_bind resolved
  cases resolved
  have bordersLead : texts.LeadsTo .reset [.borders] borders := .nearer .borders readsBorders .atEnd
  have textLeads : texts.LeadsTo .reset [.text] text := .nearer .text readsText .atEnd
  have backgroundLeads : texts.LeadsTo .reset [.background] background :=
    .nearer .background readsBackground .atEnd
  have counterLeads : texts.LeadsTo .reset [.textCounter, .text] textCounter :=
    .nearer .textCounter readsTextCounter textLeads
  cases part with
  | highlightsText => exact .nearer .highlightsText readsHighlightsText .atEnd
  | highlightsBackground => exact .nearer .highlightsBackground readsHighlightsBackground .atEnd
  | bordersList => exact .nearer .bordersList readsBordersList bordersLead
  | bordersCounter => exact .nearer .bordersCounter readsBordersCounter bordersLead
  | bordersStatus => exact .nearer .bordersStatus readsBordersStatus bordersLead
  | textList => exact .nearer .textList readsTextList textLeads
  | textCounter => exact counterLeads
  | textHint => exact .nearer .textHint readsTextHint counterLeads
  | textStatus => exact .nearer .textStatus readsTextStatus textLeads
  | buttonEnabled => exact .nearer .buttonEnabled readsButtonEnabled counterLeads
  | buttonDisabled => exact .nearer .buttonDisabled readsButtonDisabled .atEnd
  | background => exact backgroundLeads
  | backgroundList => exact .nearer .backgroundList readsBackgroundList backgroundLeads
  | backgroundCounter => exact .nearer .backgroundCounter readsBackgroundCounter backgroundLeads
  | backgroundStatus => exact .nearer .backgroundStatus readsBackgroundStatus backgroundLeads

theorem base_leads (texts : PaletteTexts) (entry : PaletteEntry) (named : Color)
    (reads : Color.ofTextOr .reset (texts.entry entry) = .ok named) (shown : Color) :
    texts.LeadsTo .reset [entry] shown ↔ shown = named := by
  have leads : texts.LeadsTo .reset [entry] named := .nearer entry reads .atEnd
  constructor
  · intro leadsShown
    exact leadsShown.unique leads
  · rintro rfl
    exact leads

theorem color_changes_iff (texts : PaletteTexts) (palette changed : Palette) (base : PaletteBase)
    (text : String) (before after : Color) (resolved : Palette.ofTexts texts = .ok palette)
    (resolvedChanged : Palette.ofTexts (texts.replaceBase base text) = .ok changed)
    (reads : Color.ofTextOr .reset (texts.entry base.entry) = .ok before)
    (readsChanged : Color.ofTextOr .reset text = .ok after) (differ : after ≠ before)
    (part : PalettePart) :
    changed.color part ≠ palette.color part ↔ part.base? = some base ∧
      ∀ entry ∈ part.nearer, Color.ofText? (texts.entry entry) = .ok none := by
  have leads := color_of_chain texts palette resolved part
  have leadsChanged := color_of_chain _ changed resolvedChanged part
  by_cases falls : part.base? = some base
  · rw [part.last_resort_of_base base falls, part.chain_of_base base falls] at leads leadsChanged
    have readsAtBase :
        Color.ofTextOr .reset ((texts.replaceBase base text).entry base.entry) = .ok after := by
      rw [texts.replace_base_entry]
      exact readsChanged
    have shows := PaletteTexts.shows_through differ (base_leads texts base.entry before reads)
      (base_leads (texts.replaceBase base text) base.entry after readsAtBase) part.nearer
      (fun entry isNearer =>
        texts.replace_base_spares base text entry (part.nearer_apart base entry isNearer))
      leads leadsChanged
    simp [shows, falls]
  · have kept := leadsChanged.unique (leads.of_agree fun entry onChain =>
      texts.replace_base_spares base text entry (part.base_off_chain base falls entry onChain))
    simp [kept, falls]

/-- A palette can be resolved exactly if each of its texts can be read. Then each part has the first
colour on its chain, and a base that comes to name another colour changes just the parts that fall
back on it and have no nearer colour. -/
theorem resolved_along_chains (texts : PaletteTexts) :
    ((∃ palette, Palette.ofTexts texts = .ok palette) ↔
      ∀ entry, Color.Reads (texts.entry entry)) ∧
    ∀ palette, Palette.ofTexts texts = .ok palette →
      (∀ part, texts.LeadsTo part.lastResort part.chain (palette.color part)) ∧
      ∀ base text before after, Color.ofTextOr .reset (texts.entry base.entry) = .ok before →
        Color.ofTextOr .reset text = .ok after → after ≠ before →
        ∃ changed, Palette.ofTexts (texts.replaceBase base text) = .ok changed ∧
          ∀ part, changed.color part ≠ palette.color part ↔ part.base? = some base ∧
            ∀ entry ∈ part.nearer, Color.ofText? (texts.entry entry) = .ok none := by
  refine ⟨resolved_iff texts, fun palette resolved => ⟨color_of_chain texts palette resolved, ?_⟩⟩
  intro base text before after reads readsChanged differ
  have allRead := (resolved_iff texts).mp ⟨palette, resolved⟩
  obtain ⟨changed, resolvedChanged⟩ :
      ∃ changed, Palette.ofTexts (texts.replaceBase base text) = .ok changed := by
    rw [resolved_iff]
    intro entry
    by_cases isBase : entry = base.entry
    · obtain ⟨named, isNamed, -⟩ := ok_of_bind readsChanged
      rw [isBase, texts.replace_base_entry]
      exact ⟨named, isNamed⟩
    · rw [texts.replace_base_spares base text entry isBase]
      exact allRead entry
  exact ⟨changed, resolvedChanged, color_changes_iff texts palette changed base text before after
    resolved resolvedChanged reads readsChanged differ⟩

/-- The counter has a colour of its own, so its hints keep it when the base of all texts changes. -/
theorem resolved_along_chains_counter :
    let texts : PaletteTexts := { text := "White", textCounter := " #00ff7f", textList := "" }
    Color.ofTextOr .reset (texts.entry PaletteBase.text.entry) = .ok .white ∧
    Color.ofTextOr .reset "cyan" = .ok .cyan ∧ Color.cyan ≠ Color.white ∧
    ∃ palette changed, Palette.ofTexts texts = .ok palette ∧
      Palette.ofTexts (texts.replaceBase .text "cyan") = .ok changed ∧
      changed.color .textList ≠ palette.color .textList ∧
      changed.color .textHint = palette.color .textHint := by
  intro texts
  have reads : Color.ofTextOr .reset (texts.entry PaletteBase.text.entry) = .ok .white :=
    ok_of_to_option _ _ (by decide +kernel)
  have readsChanged : Color.ofTextOr .reset "cyan" = .ok .cyan :=
    ok_of_to_option _ _ (by decide +kernel)
  have listBlank : Color.ofText? (texts.entry .textList) = .ok none :=
    ok_of_to_option _ _ (by decide +kernel)
  have counterNamed : Color.ofText? (texts.entry .textCounter) = .ok (some (.mixed 0 255 127)) :=
    ok_of_to_option _ _ (by decide +kernel)
  obtain ⟨palette, resolved⟩ := exists_of_to_option (Palette.ofTexts texts) (by decide +kernel)
  obtain ⟨-, changes⟩ := (resolved_along_chains texts).2 palette resolved
  obtain ⟨changed, resolvedChanged, differs⟩ :=
    changes .text "cyan" .white .cyan reads readsChanged (by decide)
  refine ⟨reads, readsChanged, by decide, palette, changed, resolved, resolvedChanged, ?_, ?_⟩
  · rw [differs]
    exact ⟨rfl, fun entry isNearer => List.mem_singleton.mp isNearer ▸ listBlank⟩
  · refine Decidable.byContradiction fun differ => ?_
    have counterBlank := ((differs .textHint).mp differ).2 .textCounter (by decide)
    cases counterNamed.symm.trans counterBlank

end Palette

end CounterForms
