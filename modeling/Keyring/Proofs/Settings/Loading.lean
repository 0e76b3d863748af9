/-
# Loading settings

The settings of a host come in three layers: the defaults, the settings file and the variables.  A
setting takes its value from the last layer that has one for it.

* `Settings.Documents` is what stands in the settings file, and `Settings.said?` what the variables
  say.
* `Settings.exists_ofFields_iff_fits`: fields make settings if and only if every one of them fits.
* `Settings.withFile_eq_ok_iff` is about the lower two layers, and `Settings.ofFields_overlay` about
  putting the third one on.
* `Settings.load_outcome`: when loading fails, and where each setting comes from if it does not.
-/
import Keyring.Proofs.Bytes.Text
import Keyring.Proofs.Named
import Keyring.Proofs.Settings.Overriding

namespace Keyring.Settings

variable {h : Host} {s : Settings} {name : Name} {v : Value}

/-! ## The file -/

/-- Something stands where the settings file is looked for. -/
def HasFile (h : Host) : Prop :=
  configPath h ≠ "" ∧ ∃ entry, h.file? (configPath h) = some entry

/-- The settings file can be read and parsed, and this is its document. -/
def Documents (h : Host) (doc : Value) : Prop :=
  configPath h ≠ "" ∧ ∃ b text, h.file? (configPath h) = some (.content b)
    ∧ Bytes.text? b = some text ∧ h.readYaml (Text.unifyLineEnds text) = .ok doc

/-- What a document gives; a mapping gives fields if all its keys have texts. -/
def contentOf : Value → Except Failure FileContent
  | .dict ms => return .fields (← fieldsOf ms)
  | _ => pure .passedOver

lemma Documents.hasFile {doc : Value} (hdoc : Documents h doc) : HasFile h := by
  obtain ⟨hpath, b, -, hfile, -, -⟩ := hdoc
  exact ⟨hpath, _, hfile⟩

/-- A file has one document. -/
lemma Documents.unique {doc doc' : Value} (hdoc : Documents h doc) (hdoc' : Documents h doc') :
    doc = doc' := by
  obtain ⟨-, b, text, hfile, htext, hparse⟩ := hdoc
  obtain ⟨-, b', text', hfile', htext', hparse'⟩ := hdoc'
  obtain rfl := FileEntry.content.inj (Option.some.inj (hfile.symm.trans hfile'))
  obtain rfl := Option.some.inj (htext.symm.trans htext')
  exact Except.ok.inj (hparse.symm.trans hparse')

lemma readContent_eq_ok_iff {b : Bytes} {content : FileContent} :
    readContent h b = .ok content
      ↔ ∃ text doc, Bytes.text? b = some text ∧ h.readYaml (Text.unifyLineEnds text) = .ok doc
        ∧ contentOf doc = .ok content := by
  rw [readContent]
  cases Bytes.text? b with
  | none => simp
  | some text =>
    simp only [bind_eq_ok_iff, Option.some.injEq]
    constructor
    · rintro ⟨doc, hparse, hcontent⟩
      refine ⟨text, doc, rfl, hparse, ?_⟩
      cases doc <;> exact hcontent
    · rintro ⟨_, doc, rfl, hparse, hcontent⟩
      refine ⟨doc, hparse, ?_⟩
      cases doc <;> exact hcontent

lemma readFile_of_not_hasFile (hfile : ¬ HasFile h) : readFile h = .ok (.fields []) := by
  rw [readFile]
  by_cases hpath : configPath h = ""
  · simp [hpath]
  · have hnothing : h.file? (configPath h) = none := by
      rw [Option.eq_none_iff_forall_ne_some]
      exact fun entry hentry => hfile ⟨hpath, entry, hentry⟩
    simp [hpath, hnothing]

lemma readFile_eq_ok_iff (hfile : HasFile h) {content : FileContent} :
    readFile h = .ok content ↔ ∃ doc, Documents h doc ∧ contentOf doc = .ok content := by
  obtain ⟨hpath, entry, hentry⟩ := hfile
  have hempty : (configPath h).isEmpty = false := by simpa using hpath
  simp only [readFile, hempty, Bool.false_eq_true, if_false, hentry, Documents]
  cases entry with
  | directory => simp
  | locked => simp
  | content b =>
    simp only [readContent_eq_ok_iff, Option.some.injEq, FileEntry.content.injEq]
    constructor
    · rintro ⟨text, doc, htext, hparse, hcontent⟩
      exact ⟨doc, ⟨hpath, b, text, rfl, htext, hparse⟩, hcontent⟩
    · rintro ⟨doc, ⟨-, _, text, rfl, htext, hparse⟩, hcontent⟩
      exact ⟨text, doc, htext, hparse, hcontent⟩

lemma nodup_fieldsOf {ms : Members} {fields : Fields} (hfields : fieldsOf ms = .ok fields) :
    (fields.map (·.1)).Nodup := by
  obtain ⟨named, -, hnamed⟩ := bind_eq_ok_iff.1 hfields
  obtain rfl := Except.ok.inj hnamed
  have hnil : (([] : Fields).map (·.1)).Nodup := List.nodup_nil
  exact Named.nodup_putAll hnil _

/-- A mapping gives fields if all its keys have texts. -/
lemma exists_fieldsOf_iff {ms : Members} :
    (∃ fields, fieldsOf ms = .ok fields) ↔ ∀ m ∈ ms, ∃ text, m.1.display = .ok text := by
  rw [fieldsOf, exists_bind_pure_ok_iff, exists_mapM_ok_iff]
  simp only [exists_bind_pure_ok_iff]

/-- Keys with equal texts are merged, but never away. -/
lemma eq_nil_iff_of_fieldsOf {ms : Members} {fields : Fields} (hfields : fieldsOf ms = .ok fields) :
    fields = [] ↔ ms = [] := by
  obtain ⟨named, hms, hnamed⟩ := bind_eq_ok_iff.1 hfields
  obtain rfl := Except.ok.inj hnamed
  constructor
  · intro hnil
    cases ms with
    | nil => rfl
    | cons m ms =>
      rw [List.mapM_cons] at hms
      obtain ⟨first, -, hms⟩ := bind_eq_ok_iff.1 hms
      obtain ⟨rest, -, hms⟩ := bind_eq_ok_iff.1 hms
      obtain rfl := Except.ok.inj hms
      exact absurd hnil (Named.putAll_ne_nil (Named.put_ne_nil _ _ _) _)
  · rintro rfl
    obtain rfl := Except.ok.inj hms
    rfl

/-! ## Fields that fit -/

/-- The name is one of a setting, and the setting takes the value. -/
def Fits (text : String) (v : Value) : Prop :=
  ∃ name w, Name.text name = text ∧ read name v = .ok w

lemma problem?_eq_none_iff_fits {text : String} : problem? text v = none ↔ Fits text v := by
  constructor
  · intro hnone
    cases hname : Name.ofText? text with
    | none =>
      rw [problem?, hname] at hnone
      cases hnone
    | some name =>
      obtain rfl := Name.eq_text_of_ofText? hname
      obtain ⟨w, hw⟩ := problem?_eq_none_iff.1 hnone
      exact ⟨name, w, rfl, hw⟩
  · rintro ⟨name, w, rfl, hw⟩
    exact problem?_eq_none_iff.2 ⟨w, hw⟩

/-- Fields make settings if and only if every one of them fits; a field that does not fit counts,
whatever else there is. -/
lemma exists_ofFields_iff_fits {fields : Fields} :
    (∃ t, ofFields fields = .ok t) ↔ ∀ p ∈ fields, Fits p.1 p.2 := by
  have hproblems :
      (fields.filterMap fun p => (problem? p.1 p.2).map ((p.1, ·))).isEmpty = true
        ↔ ∀ p ∈ fields, Fits p.1 p.2 := by
    simp [List.isEmpty_iff, problem?_eq_none_iff_fits]
  rw [← hproblems, ofFields]
  split
  · next hempty => exact ⟨fun _ => hempty, fun _ => ⟨_, rfl⟩⟩
  · next hempty =>
    constructor
    · rintro ⟨t, ht⟩
      cases ht
    · intro h
      exact absurd h hempty

/-- What settings are makes the same settings again. -/
lemma ofFields_toFields (s : Settings) : ofFields s.toFields = .ok s := by
  rw [toFields_eq, ofFields_eq_ok_iff]
  exact read_get s

/-! ## The defaults and the file -/

/-- Fields under names of settings take the places of the values that were there. -/
lemma update_fields {fields : Fields} (hdistinct : (fields.map (·.1)).Nodup)
    (hfits : ∀ p ∈ fields, Fits p.1 p.2) (f : Name → Value) :
    (Name.fields Name.all f).update fields
      = Name.fields Name.all fun name => (fields.lookup name.text).getD (f name) := by
  induction fields generalizing f with
  | nil => rfl
  | cons head fields ih =>
    obtain ⟨text, v⟩ := head
    obtain ⟨hnew, hrest⟩ := List.nodup_cons.1 hdistinct
    obtain ⟨⟨changed, -, rfl, -⟩, hothers⟩ := List.forall_mem_cons.1 hfits
    have hstep : (Name.fields Name.all f).update ((changed.text, v) :: fields)
        = (Name.fields Name.all (Function.update f changed v)).update fields := by
      rw [← insert_fields]
      rfl
    rw [hstep, ih hrest hothers]
    refine congrArg _ (funext fun name => ?_)
    rw [Named.lookup_cons]
    by_cases hname : name = changed
    · subst hname
      rw [if_pos rfl, Named.lookup_eq_none hnew, Function.update_self]
      rfl
    · rw [if_neg (Name.text_injective.ne hname), Function.update_of_ne hname]

lemma withFile_eq (fields : Fields) :
    withFile fields = ofFields (({} : Settings).toFields.update fields) := by
  rw [withFile]
  cases fields with
  | nil => exact (ofFields_toFields {}).symm
  | cons head fields => rfl

/-- The fields of a file make settings if and only if every one of them fits, and then a setting is
what its field is read as, or else the default. -/
lemma withFile_eq_ok_iff {fields : Fields} (hdistinct : (fields.map (·.1)).Nodup) :
    withFile fields = .ok s
      ↔ (∀ p ∈ fields, Fits p.1 p.2)
        ∧ ∀ name, read name ((fields.lookup name.text).getD (({} : Settings).get name))
          = .ok (s.get name) := by
  rw [withFile_eq]
  constructor
  · intro hs
    have hfits : ∀ p ∈ fields, Fits p.1 p.2 := by
      intro p hp
      refine exists_ofFields_iff_fits.1 ⟨s, hs⟩ p (Named.mem_of_lookup ?_)
      rw [Fields.update, Named.lookup_putAll hdistinct,
        (Named.lookup_eq_some_iff hdistinct).2 hp]
      rfl
    rw [toFields_eq, update_fields hdistinct hfits, ofFields_eq_ok_iff] at hs
    exact ⟨hfits, hs⟩
  · rintro ⟨hfits, hread⟩
    rwa [toFields_eq, update_fields hdistinct hfits, ofFields_eq_ok_iff]

lemma exists_withFile_iff {fields : Fields} (hdistinct : (fields.map (·.1)).Nodup) :
    (∃ s, withFile fields = .ok s) ↔ ∀ p ∈ fields, Fits p.1 p.2 := by
  constructor
  · rintro ⟨s, hs⟩
    exact ((withFile_eq_ok_iff hdistinct).1 hs).1
  · intro hfits
    rw [withFile_eq, toFields_eq, update_fields hdistinct hfits, exists_ofFields_iff]
    intro name
    cases hlookup : fields.lookup name.text with
    | none => exact ⟨_, read_get _ _⟩
    | some v =>
      obtain ⟨other, w, htext, hw⟩ := hfits _ (Named.mem_of_lookup hlookup)
      obtain rfl := Name.text_injective htext
      exact ⟨w, hw⟩

/-! ## The variables -/

/-- What a variable says about a truth value, if it is set and not empty. -/
def saidTruth? (h : Host) (key : String) : Option Value :=
  match h.valueOf? key with
  | none => none
  | some raw =>
    if raw.isEmpty then none
    else some (.bool (Host.yesWords.contains (Text.lower (Text.strip raw))))

/-- What the variables say about a setting; about the origin they say nothing. -/
def said? (h : Host) : Name → Option Value
  | .fipsOnly => saidTruth? h "KEYCORE_FIPS_ONLY"
  | .fipsModuleAvailable => saidTruth? h "KEYCORE_FIPS_MODULE_AVAILABLE"
  | .newKeyAllowed => saidTruth? h "KEYCORE_NEW_KEY_ALLOWED"
  | .registerJwtRsa => saidTruth? h "KEYCORE_REGISTER_JWT_RSA"
  | .logLevel =>
    let level := Text.strip ((h.valueOf? "KEYCORE_LOG_LEVEL").getD "")
    if level.isEmpty then none else some (.text (Text.upper level))
  | .logJson => saidTruth? h "KEYCORE_LOG_JSON"
  | .metricsEnabled => saidTruth? h "KEYCORE_METRICS_ENABLED"
  | .configOrigin => none

lemma bool_truth (h : Host) (key : String) (default : Bool) :
    Value.bool (h.truth key default) = (saidTruth? h key).getD (.bool default) := by
  rw [Host.truth, saidTruth?]
  cases h.valueOf? key with
  | none => rfl
  | some raw => cases hempty : raw.isEmpty <;> simp [hempty]

lemma get_withVariables (s : Settings) (h : Host) (name : Name) :
    (s.withVariables h).get name = (said? h name).getD (s.get name) := by
  cases name
  case logLevel =>
    simp only [get, withVariables, said?]
    split <;> rfl
  case configOrigin => rfl
  all_goals exact bool_truth ..

/-- The values of settings with what the variables say in the places of some, and with an origin. -/
def overlay (h : Host) (origin : String) (fields : Fields) : Fields :=
  Fields.insert
    (Name.all.foldl (fun acc name => (said? h name).elim acc (acc.insert name.text)) fields)
    Name.configOrigin.text (.text origin)

lemma foldl_said (h : Host) (names : List Name) (f : Name → Value) :
    names.foldl (fun acc name => (said? h name).elim acc (acc.insert name.text))
        (Name.fields Name.all f)
      = Name.fields Name.all fun name =>
        if name ∈ names then (said? h name).getD (f name) else f name := by
  induction names generalizing f with
  | nil => simp
  | cons head names ih =>
    have hstep : (said? h head).elim (Name.fields Name.all f)
          ((Name.fields Name.all f).insert head.text)
        = Name.fields Name.all (Function.update f head ((said? h head).getD (f head))) := by
      cases said? h head with
      | none => simp
      | some v => exact insert_fields ..
    rw [List.foldl_cons, hstep, ih]
    refine congrArg _ (funext fun name => ?_)
    by_cases hname : name = head
    · subst hname
      cases said? h name <;> simp
    · simp [hname]

/-- The origin is a setting of its own. -/
lemma get_of_ne_origin (h : name ≠ .configOrigin) (s : Settings) (origin : String) :
    ({ s with configOrigin := origin } : Settings).get name = s.get name := by
  cases name <;> first | rfl | exact absurd rfl h

/-- Putting on what the variables say and the origin makes settings, whatever the lower layers
gave. -/
lemma ofFields_overlay (h : Host) (origin : String) (s : Settings) :
    ofFields (overlay h origin s.toFields)
      = .ok { s.withVariables h with configOrigin := origin } := by
  rw [overlay, toFields_eq, foldl_said, insert_fields, ofFields_eq_ok_iff]
  intro name
  by_cases hname : name = .configOrigin
  · subst hname
    rw [Function.update_self]
    rfl
  · rw [Function.update_of_ne hname, if_pos name.mem_all, ← get_withVariables, read_get]
    exact congrArg Except.ok (get_of_ne_origin hname _ _).symm

/-! ## Reading the file -/

/-- The fields that the settings file gives; none if there is no mapping. -/
def FileContent.given : FileContent → Fields
  | .fields given => given
  | .passedOver => []

section Content

variable {content : FileContent} (hcontent : readFile h = .ok content)
include hcontent

/-- What was read is what the document gives, if there is a file. -/
lemma content_cases :
    (¬ HasFile h ∧ content.given = [])
      ∨ ∃ doc, Documents h doc ∧ contentOf doc = .ok content := by
  by_cases hfile : HasFile h
  · exact .inr ((readFile_eq_ok_iff hfile).1 hcontent)
  · rw [readFile_of_not_hasFile hfile] at hcontent
    obtain rfl := Except.ok.inj hcontent
    exact .inl ⟨hfile, rfl⟩

lemma exists_mapping_iff {p : Fields → Prop} (hempty : ¬ p []) :
    (∃ ms fields, Documents h (.dict ms) ∧ fieldsOf ms = .ok fields ∧ p fields)
      ↔ p content.given := by
  rcases content_cases hcontent with ⟨hfile, hgiven⟩ | ⟨doc, hdoc, hgives⟩
  · rw [hgiven]
    exact ⟨fun ⟨_, _, hdoc, _⟩ => absurd hdoc.hasFile hfile, fun h => absurd h hempty⟩
  · constructor
    · rintro ⟨ms, fields, hmapping, hfields, h⟩
      obtain rfl := hdoc.unique hmapping
      rw [contentOf, hfields] at hgives
      obtain rfl := Except.ok.inj hgives
      exact h
    · intro h
      cases doc with
      | dict ms =>
        obtain ⟨fields, hfields, hgives⟩ := bind_eq_ok_iff.1 hgives
        obtain rfl := Except.ok.inj hgives
        exact ⟨ms, fields, hdoc, hfields, h⟩
      | _ =>
        obtain rfl := Except.ok.inj hgives
        exact absurd h hempty

lemma exists_nonempty_iff :
    (∃ ms, Documents h (.dict ms) ∧ ms ≠ []) ↔ content.given ≠ [] := by
  rw [← exists_mapping_iff hcontent (p := (· ≠ [])) (not_not_intro rfl)]
  constructor
  · rintro ⟨ms, hdoc, hne⟩
    obtain ⟨doc, hdoc', hgives⟩ := (readFile_eq_ok_iff hdoc.hasFile).1 hcontent
    obtain rfl := hdoc.unique hdoc'
    obtain ⟨fields, hfields, -⟩ := bind_eq_ok_iff.1 hgives
    exact ⟨ms, fields, hdoc, hfields, mt (eq_nil_iff_of_fieldsOf hfields).1 hne⟩
  · rintro ⟨ms, fields, hdoc, hfields, hne⟩
    exact ⟨ms, hdoc, mt (eq_nil_iff_of_fieldsOf hfields).2 hne⟩

lemma nodup_given : (content.given.map (·.1)).Nodup := by
  rcases content_cases hcontent with ⟨-, hgiven⟩ | ⟨doc, -, hgives⟩
  · rw [hgiven]
    exact List.nodup_nil
  · cases doc with
    | dict ms =>
      obtain ⟨fields, hfields, hgives⟩ := bind_eq_ok_iff.1 hgives
      obtain rfl := Except.ok.inj hgives
      exact nodup_fieldsOf hfields
    | _ =>
      obtain rfl := Except.ok.inj hgives
      exact List.nodup_nil

end Content

/-! ## The layers -/

/-- The settings file offers a value for a setting. -/
def Offers (h : Host) (name : Name) (v : Value) : Prop :=
  ∃ ms fields, Documents h (.dict ms) ∧ fieldsOf ms = .ok fields
    ∧ fields.lookup name.text = some v

/-- Where the value of a setting comes from: what the variables say, or else what the value in the
file is read as, or else the default. -/
inductive Layered (h : Host) (name : Name) : Value → Prop
  | environment {w : Value} (said : said? h name = some w) : Layered h name w
  | file {v w : Value} (unsaid : said? h name = none) (offered : Offers h name v)
      (taken : read name v = .ok w) : Layered h name w
  | default (unsaid : said? h name = none) (unoffered : ∀ v, ¬ Offers h name v) :
      Layered h name (({} : Settings).get name)

/-- A file offers one value for a setting. -/
lemma Offers.unique {v' : Value} (hv : Offers h name v) (hv' : Offers h name v') : v = v' := by
  obtain ⟨ms, fields, hdoc, hfields, hlookup⟩ := hv
  obtain ⟨ms', fields', hdoc', hfields', hlookup'⟩ := hv'
  obtain rfl := Value.dict.inj (hdoc.unique hdoc')
  obtain rfl := Except.ok.inj (hfields.symm.trans hfields')
  exact Option.some.inj (hlookup.symm.trans hlookup')

/-- The layers settle the value of a setting. -/
lemma Layered.unique {w w' : Value} (hw : Layered h name w) (hw' : Layered h name w') : w = w' := by
  cases hw with
  | environment said =>
    cases hw' with
    | environment said' => exact Option.some.inj (said.symm.trans said')
    | file unsaid | default unsaid => cases said.symm.trans unsaid
  | file unsaid offered taken =>
    cases hw' with
    | environment said => cases said.symm.trans unsaid
    | file _ offered' taken' =>
      obtain rfl := offered.unique offered'
      exact Except.ok.inj (taken.symm.trans taken')
    | default _ unoffered => exact absurd offered (unoffered _)
  | default unsaid unoffered =>
    cases hw' with
    | environment said => cases said.symm.trans unsaid
    | file _ offered => exact absurd offered (unoffered _)
    | default => rfl

/-- Loading layer by layer: what the defaults and the file give is checked, and what comes of the
variables and the origin is checked again. -/
def layered (h : Host) : Except Failure Settings := do
  match ← readFile h with
  | .passedOver => ofFields (overlay h "defaults" ({} : Settings).toFields)
  | .fields fields =>
    let s ← withFile fields
    ofFields (overlay h (if fields.isEmpty then "defaults" else "yaml") s.toFields)

/-- Nothing that the variables say makes the second check fail, so that one check is enough. -/
lemma map_load (h : Host) : (load h).map (·.settings) = layered h := by
  rw [load, layered]
  cases readFile h with
  | error e => rfl
  | ok content =>
    cases content with
    | passedOver => exact (ofFields_overlay ..).symm
    | fields fields =>
      cases hs : withFile fields with
      | error e =>
        simp only [bind, Except.bind, hs]
        rfl
      | ok s =>
        simp only [bind, Except.bind, hs]
        exact (ofFields_overlay ..).symm

/-! ## Loading -/

section Load

variable {content : FileContent} (hcontent : readFile h = .ok content)
include hcontent

/-- What loading makes of what was read. -/
lemma load_of_readFile :
    (load h).map (·.settings) = (withFile content.given).map fun s =>
      { s.withVariables h with
        configOrigin := if content.given.isEmpty then "defaults" else "yaml" } := by
  rw [load, hcontent]
  cases content with
  | passedOver => rfl
  | fields fields =>
    simp only [bind, Except.bind, FileContent.given]
    cases withFile fields <;> rfl

/-- Where the variables say nothing, the setting is what the file offers, or else the default. -/
lemma layered_of_withFile (hs : withFile content.given = .ok s) (name : Name) :
    Layered h name ((said? h name).getD (s.get name)) := by
  have hoffers : ∀ v, Offers h name v ↔ content.given.lookup name.text = some v := fun v =>
    exists_mapping_iff hcontent (p := (·.lookup name.text = some v)) nofun
  obtain ⟨-, hread⟩ := (withFile_eq_ok_iff (nodup_given hcontent)).1 hs
  have hread := hread name
  cases hsaid : said? h name with
  | some w => exact .environment hsaid
  | none =>
    cases hlookup : content.given.lookup name.text with
    | some v =>
      rw [hlookup] at hread
      exact .file hsaid ((hoffers v).2 hlookup) hread
    | none =>
      rw [hlookup, Option.getD_none, read_get] at hread
      rw [Option.getD_none, ← Except.ok.inj hread]
      refine .default hsaid fun v hoffered => ?_
      rw [(hoffers v).1 hoffered] at hlookup
      cases hlookup

end Load

/-- A mapping that makes no settings: one of its keys has no text, or one of its fields does not
fit, because no setting has its name or because the setting does not take its value. -/
inductive Unfit (ms : Members) : Prop
  | key {m : Value × Value} (mem : m ∈ ms) (unnamed : ¬ ∃ text, m.1.display = .ok text)
  | field {fields : Fields} {text : String} {v : Value} (named : fieldsOf ms = .ok fields)
      (offered : fields.lookup text = some v) (unfit : ¬ Fits text v)

/-- A file that cannot be taken in cannot be read or parsed, or is a mapping with a key that has no
text. -/
lemma unfit_of_readFile_error {e : Failure} (herror : readFile h = .error e) :
    (HasFile h ∧ ∀ doc, ¬ Documents h doc) ∨ ∃ ms, Documents h (.dict ms) ∧ Unfit ms := by
  have hfile : HasFile h := by
    by_contra hnone
    rw [readFile_of_not_hasFile hnone] at herror
    cases herror
  by_cases hdocs : ∃ doc, Documents h doc
  · obtain ⟨doc, hdoc⟩ := hdocs
    have hgives : ¬ ∃ content, contentOf doc = .ok content := by
      rintro ⟨content, hcontent⟩
      rw [(readFile_eq_ok_iff hfile).2 ⟨doc, hdoc, hcontent⟩] at herror
      cases herror
    cases doc with
    | dict ms =>
      rw [contentOf, exists_bind_pure_ok_iff, exists_fieldsOf_iff] at hgives
      push Not at hgives
      obtain ⟨m, hm, hunnamed⟩ := hgives
      exact .inr ⟨ms, hdoc, .key hm fun ⟨text, htext⟩ => hunnamed text htext⟩
    | _ => exact absurd ⟨_, rfl⟩ hgives
  · exact .inl ⟨hfile, fun doc hdoc => hdocs ⟨doc, hdoc⟩⟩

/-- Once the file was taken in, a mapping makes no settings only for one of its fields. -/
lemma exists_unfit_iff {content : FileContent} (hcontent : readFile h = .ok content) :
    (∃ ms, Documents h (.dict ms) ∧ Unfit ms)
      ↔ ∃ text v, content.given.lookup text = some v ∧ ¬ Fits text v := by
  rw [← exists_mapping_iff hcontent (p := fun fields => ∃ text v, fields.lookup text = some v
    ∧ ¬ Fits text v) nofun]
  constructor
  · rintro ⟨ms, hdoc, hunfit⟩
    cases hunfit with
    | key mem unnamed =>
      obtain ⟨doc, hdoc', hgives⟩ := (readFile_eq_ok_iff hdoc.hasFile).1 hcontent
      obtain rfl := hdoc.unique hdoc'
      obtain ⟨fields, hfields, -⟩ := bind_eq_ok_iff.1 hgives
      exact absurd (exists_fieldsOf_iff.1 ⟨fields, hfields⟩ _ mem) unnamed
    | field named offered unfit => exact ⟨ms, _, hdoc, named, _, _, offered, unfit⟩
  · rintro ⟨ms, fields, hdoc, hfields, text, v, hlookup, hunfit⟩
    exact ⟨ms, hdoc, .field hfields hlookup hunfit⟩

/-- Loading fails if the file cannot be read or parsed, or is a mapping that makes no settings. -/
lemma exists_load_error_iff :
    (∃ e, load h = .error e)
      ↔ (HasFile h ∧ ∀ doc, ¬ Documents h doc) ∨ ∃ ms, Documents h (.dict ms) ∧ Unfit ms := by
  cases hread : readFile h with
  | error e =>
    have hload : load h = .error e := by
      rw [load, hread]
      rfl
    exact iff_of_true ⟨e, hload⟩ (unfit_of_readFile_error hread)
  | ok content =>
    have hreadable : ¬ (HasFile h ∧ ∀ doc, ¬ Documents h doc) := by
      rintro ⟨hfile, hunreadable⟩
      obtain ⟨doc, hdoc, -⟩ := (readFile_eq_ok_iff hfile).1 hread
      exact hunreadable doc hdoc
    have herror : (∃ e, load h = .error e) ↔ ¬ ∃ s, withFile content.given = .ok s := by
      have hload := load_of_readFile hread
      cases hloaded : load h <;> cases hs : withFile content.given <;>
        simp_all [Except.map]
    rw [herror, exists_withFile_iff (nodup_given hread), or_iff_right hreadable,
      exists_unfit_iff hread]
    simp only [Named.lookup_eq_some_iff (nodup_given hread)]
    push Not
    exact ⟨fun ⟨p, hp, hunfit⟩ => ⟨p.1, p.2, hp, hunfit⟩,
      fun ⟨text, v, hp, hunfit⟩ => ⟨(text, v), hp, hunfit⟩⟩

/-- The settings that are loaded for a host, however it reads YAML.

* Loading fails if and only if there is a settings file that cannot be read or parsed, or one whose
  document is a mapping with a key or a value that does not fit, also where the variables would have
  the last word.
* Otherwise every setting comes from the last layer that has a value for it, the origin apart, which
  tells whether the document is a mapping that is not empty.
* Checking again what the three layers give changes nothing, and never fails. -/
theorem load_outcome (h : Host) :
    ((∃ e, load h = .error e)
        ↔ (HasFile h ∧ ∀ doc, ¬ Documents h doc) ∨ ∃ ms, Documents h (.dict ms) ∧ Unfit ms)
      ∧ (∀ loaded, load h = .ok loaded →
        (∀ name, name ≠ .configOrigin → Layered h name (loaded.settings.get name))
          ∧ (loaded.settings.configOrigin = "yaml" ↔ ∃ ms, Documents h (.dict ms) ∧ ms ≠ [])
          ∧ (loaded.settings.configOrigin ≠ "yaml" → loaded.settings.configOrigin = "defaults"))
      ∧ (load h).map (·.settings) = layered h
      ∧ ∀ (s : Settings) (origin : String),
        ∃ t, ofFields (overlay h origin s.toFields) = .ok t := by
  refine ⟨exists_load_error_iff, fun loaded hloaded => ?_, map_load h,
    fun s origin => ⟨_, ofFields_overlay h origin s⟩⟩
  obtain ⟨content, hcontent, -⟩ := bind_eq_ok_iff.1 hloaded
  have hmap := load_of_readFile hcontent
  rw [hloaded] at hmap
  obtain ⟨s, hs, hsettings⟩ := map_eq_ok_iff.1 hmap.symm
  have horigin : loaded.settings.configOrigin
      = if content.given.isEmpty then "defaults" else "yaml" :=
    congrArg configOrigin hsettings.symm
  refine ⟨fun name hname => ?_, ?_, fun hyaml => ?_⟩
  · have hget : loaded.settings.get name = (s.withVariables h).get name :=
      (congrArg (·.get name) hsettings.symm).trans (get_of_ne_origin hname _ _)
    rw [hget, get_withVariables]
    exact layered_of_withFile hcontent hs name
  · rw [exists_nonempty_iff hcontent, horigin]
    cases content.given <;> simp
  · rw [horigin] at hyaml ⊢
    split at hyaml
    · next hempty => rw [if_pos hempty]
    · exact absurd rfl hyaml

/-- The text of a settings file. -/
def mixedText : String :=
  "fips_only: true\nlog_json: 0\nlog_level: debug\nconfig_origin: elsewhere\n"

/-- The members of the mapping in the file. -/
def mixedMembers : Members :=
  [(.text "fips_only", .bool true), (.text "log_json", .int 0), (.text "log_level", .text "debug"),
    (.text "config_origin", .text "elsewhere")]

/-- A host whose file and variables speak of the same settings. -/
def mixedHost : Host where
  environment := [("KEYCORE_CONFIG_PATH", "\tkeyring "), ("KEYCORE_FIPS_ONLY", " oFF"),
    ("KEYCORE_LOG_JSON", ""), ("KEYCORE_LOG_LEVEL", " ")]
  files := [("keyring", .content (Bytes.ofText mixedText))]

/-- A host with a variable for a setting that is junk in the file. -/
def junkHost : Host where
  environment := [("KEYCORE_CONFIG_PATH", "keyring"), ("KEYCORE_LOG_JSON", "1")]
  files := [("keyring", .content (Bytes.ofText "log_json: perhaps\n"))]

/-- A host that may not open its file. -/
def lockedHost : Host where
  environment := [("KEYCORE_CONFIG_PATH", "keyring")]
  files := [("keyring", .locked)]

/-- A file with a text that is read is a file with its document. -/
lemma documents_ofText (text : String) {doc : Value} (hpath : configPath h ≠ "")
    (hfile : h.file? (configPath h) = some (.content (Bytes.ofText text)))
    (hparse : h.readYaml (Text.unifyLineEnds text) = .ok doc) : Documents h doc :=
  ⟨hpath, _, text, hfile, Bytes.text?_ofText text, hparse⟩

lemma documents_mixedHost : Documents mixedHost (.dict mixedMembers) := by
  refine documents_ofText mixedText (by decide +kernel) (by decide +kernel) ?_
  have hparse : (Yaml.parse (Text.unifyLineEnds mixedText)).toOption
      = some (.mapping [(.text "fips_only", .bool true), (.text "log_json", .int 0),
        (.text "log_level", .text "debug"), (.text "config_origin", .text "elsewhere")]) := by
    decide +kernel
  exact bind_eq_ok_iff.2 ⟨_, eq_ok_of_toOption hparse, rfl⟩

lemma documents_junkHost : Documents junkHost (.dict [(.text "log_json", .text "perhaps")]) := by
  refine documents_ofText "log_json: perhaps\n" (by decide +kernel) (by decide +kernel) ?_
  have hparse : (Yaml.parse (Text.unifyLineEnds "log_json: perhaps\n")).toOption
      = some (.mapping [(.text "log_json", .text "perhaps")]) := by
    decide +kernel
  exact bind_eq_ok_iff.2 ⟨_, eq_ok_of_toOption hparse, rfl⟩

/-- A variable wins over the file, one that is empty or blank does not, and the origin is not the
file's to tell; junk in the file is not made up for by a variable, and a file that may not be opened
is not passed over. -/
theorem load_outcome_mixedHost :
    (∃ loaded, load mixedHost = .ok loaded
        ∧ loaded.settings.fipsOnly = false ∧ loaded.settings.logJson = false
        ∧ loaded.settings.logLevel = "debug" ∧ loaded.settings.configOrigin = "yaml")
      ∧ (∃ e, load junkHost = .error e) ∧ ∃ e, load lockedHost = .error e := by
  refine ⟨?_, ?_, ?_⟩
  · have hok : (load mixedHost).isOk = true := by decide +kernel
    obtain ⟨loaded, hload⟩ := isOk_iff.1 hok
    obtain ⟨-, hlayers, -⟩ := load_outcome mixedHost
    obtain ⟨hlayered, horigin, -⟩ := hlayers loaded hload
    have hoffers : ∀ name v, List.lookup (Name.text name)
        [("fips_only", .bool true), ("log_json", .int 0), ("log_level", .text "debug"),
          ("config_origin", .text "elsewhere")] = some v → Offers mixedHost name v :=
      fun _ _ hlookup => ⟨mixedMembers, _, documents_mixedHost, rfl, hlookup⟩
    have hfips : Value.bool loaded.settings.fipsOnly = .bool false :=
      (hlayered .fipsOnly nofun).unique (.environment rfl)
    have hjson : Value.bool loaded.settings.logJson = .bool false :=
      (hlayered .logJson nofun).unique (.file rfl (hoffers .logJson (.int 0) rfl) rfl)
    have hlevel : Value.text loaded.settings.logLevel = .text "debug" :=
      (hlayered .logLevel nofun).unique (.file rfl (hoffers .logLevel (.text "debug") rfl) rfl)
    exact ⟨loaded, hload, Value.bool.inj hfips, Value.bool.inj hjson, Value.text.inj hlevel,
      horigin.2 ⟨mixedMembers, documents_mixedHost, nofun⟩⟩
  · have hunfit : ¬ Fits "log_json" (.text "perhaps") := by
      rw [← problem?_eq_none_iff_fits]
      decide +kernel
    exact (load_outcome junkHost).1.2
      (.inr ⟨_, documents_junkHost, .field rfl (show List.lookup "log_json" _ = _ from rfl) hunfit⟩)
  · refine (load_outcome lockedHost).1.2 (.inl ⟨⟨by decide +kernel, .locked, rfl⟩, ?_⟩)
    rintro doc ⟨-, b, text, hfile, -⟩
    cases hfile

end Keyring.Settings
