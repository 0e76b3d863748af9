/-
# What the calls on a registry leave behind

The calls that change a registry determine its entries: for each key type, the registrations that
the policy allowed at their time say whether the type is registered, with which class, which manager
and which primitives, and whether new keys are allowed.

* `admissions` are the registrations of a key type that the policy allowed, among the calls of a
  run.
* `Determined` says what an entry is after the registrations of its key type; `tracks_make` is the
  step from one call to the next, and `tracks_final` follows a whole run.
* `entry_after_calls`: the entries of a registry that was empty before the calls.
-/
import Keyring.Proofs.Registry.Calls
import Keyring.Proofs.Run

namespace Keyring.Registry

/-! ## Calls -/

/-- A call that changes a registry. -/
inductive Call where
  | register (request : Directory.Request)
  | restrict

/-- What a call does. -/
def Call.action (id : RegistryId) : Call → Action Unit
  | register r => Registry.register id r
  | restrict => Registry.restrict id

/-! ## Admitted registrations -/

/-- A registration that the policy allowed, and whether it succeeded. -/
structure Admission where
  request : Directory.Request
  succeeded : Bool

/-- The registration of a key type that a call was, if the policy allowed it at that time. -/
def admission? (id : RegistryId) (keyType : String) (m : Run.Made Call) : Option Admission :=
  match m.call with
  | .register r =>
    if r.manager.keyType = keyType ∧ (m.before.policyOf id).allows r.declared = true then
      some ⟨r, m.outcome.isOk⟩
    else none
  | .restrict => none

/-- The admitted registrations of a key type, in their order. -/
def admissions (id : RegistryId) (keyType : String) (made : List (Run.Made Call)) :
    List Admission :=
  made.filterMap (admission? id keyType)

/-- Whether all registrations with managers of a class allow new keys. -/
def allAllow (managerClass : ManagerClass) (as : List Admission) : Bool :=
  (as.filter fun a => a.request.manager.implementingClass = managerClass).all
    (·.request.newKeyAllowed)

/-- The manager of the latest later registration that succeeded and was forced, or else of the
first registration. -/
def latestManager (first : Admission) (later : List Admission) : Manager :=
  ((later.filter fun a => a.request.force && a.succeeded).getLast?.getD first).request.manager

lemma allAllow_snoc (managerClass : ManagerClass) (as : List Admission) (a : Admission) :
    allAllow managerClass (as ++ [a])
      = (allAllow managerClass as
        && (decide (a.request.manager.implementingClass ≠ managerClass)
          || a.request.newKeyAllowed)) := by
  rw [allAllow, List.filter_append, List.all_append, ← allAllow]
  by_cases h : a.request.manager.implementingClass = managerClass
  · simp [h]
  · simp [h]

lemma latestManager_snoc (first : Admission) (later : List Admission) (a : Admission) :
    latestManager first (later ++ [a])
      = if a.request.force && a.succeeded then a.request.manager
        else latestManager first later := by
  rw [latestManager, List.filter_append]
  cases h : a.request.force && a.succeeded with
  | true => simp [h]
  | false => simp [h, latestManager]

/-! ## Entries -/

/-- An entry is what the admitted registrations of its key type make it. -/
structure Determined (first : Admission) (later : List Admission) (entry : DirectoryEntry) :
    Prop where
  implementingClass : entry.implementingClass = first.request.manager.implementingClass
  newKeyAllowed : entry.newKeyAllowed = allAllow entry.implementingClass (first :: later)
  manager : entry.manager = latestManager first later
  primitives : entry.primitives = entry.manager.primitives

/-- A directory holds for a key type what the admitted registrations make of it. -/
def Tracks (d : Directory) (keyType : String) : List Admission → Prop
  | [] => d.find? keyType = none
  | first :: later => ∃ entry, d.find? keyType = some entry ∧ Determined first later entry

namespace Determined

variable {first : Admission} {later : List Admission} {entry : DirectoryEntry}
  {r : Directory.Request}

lemma first_entry (r : Directory.Request) (succeeded : Bool) :
    Determined ⟨r, succeeded⟩ [] r.entry where
  implementingClass := rfl
  newKeyAllowed := by simp [allAllow, Directory.Request.entry]
  manager := rfl
  primitives := rfl

/-- A refused registration of the same class asked for new keys where there are none. -/
lemma snoc_refused (h : Determined first later entry)
    (hr : entry.implementingClass = r.manager.implementingClass → entry.newKeyAllowed = false) :
    Determined first (later ++ [⟨r, false⟩]) entry where
  implementingClass := h.implementingClass
  newKeyAllowed := by
    rw [← List.cons_append, allAllow_snoc, ← h.newKeyAllowed]
    by_cases hclass : entry.implementingClass = r.manager.implementingClass
    · rw [hr hclass, Bool.false_and]
    · simp [Ne.symm hclass]
  manager := by
    rw [latestManager_snoc, Bool.and_false, if_neg Bool.false_ne_true, h.manager]
  primitives := h.primitives

/-- A registration that refreshes an entry. -/
lemma snoc_refreshed (h : Determined first later entry)
    (hclass : entry.implementingClass = r.manager.implementingClass)
    (htightens : r.newKeyAllowed = true → entry.newKeyAllowed = true) :
    Determined first (later ++ [⟨r, true⟩]) (r.refreshed entry) := by
  have hsame : (r.refreshed entry).implementingClass = entry.implementingClass := by
    rw [Directory.Request.refreshed]
    split
    · exact hclass.symm
    · rfl
  have hflag : (r.refreshed entry).newKeyAllowed = r.newKeyAllowed := by
    rw [Directory.Request.refreshed]
    split <;> rfl
  constructor
  · rw [hsame, h.implementingClass]
  · rw [hsame, hflag, ← List.cons_append, allAllow_snoc, ← h.newKeyAllowed]
    cases hasked : r.newKeyAllowed with
    | false => simp [hclass]
    | true => rw [htightens hasked, Bool.or_true, Bool.and_true]
  · rw [latestManager_snoc, Bool.and_true, Directory.Request.refreshed]
    split
    · rfl
    · exact h.manager
  · rw [Directory.Request.refreshed]
    split
    · rfl
    · exact h.primitives

end Determined

/-! ## One call -/

section Step

variable {id : RegistryId} {s : State} {keyType : String} {as : List Admission}

/-- A call leaves the registry where it is. -/
lemma next_make (id : RegistryId) (c : Call) (s : State) :
    (Run.make (Call.action id) c s).after.registries.next = s.registries.next := by
  cases c with
  | register r =>
    change (Registry.register id r s).2.registries.next = _
    cases h : Directory.register (s.policyOf id) (s.directory id) r with
    | error refusal => exact State.next_eq_of_objects (register_of_error h).2
    | ok accepted =>
      rw [State.next_eq_of_objects (register_of_ok h).2]
      exact Table.next_set ..
  | restrict =>
    change (Registry.restrict id s).2.registries.next = _
    rcases restrict_cases id s with ⟨-, h⟩ | ⟨-, -, -, h⟩ | ⟨-, -, h⟩
    · rw [h]
    · rw [State.next_eq_of_objects h]
      rfl
    · rw [h]

/-- A call that fails changes nothing. -/
lemma objects_make_of_error {c : Call} (h : (Run.make (Call.action id) c s).outcome.isOk = false) :
    (Run.make (Call.action id) c s).after.objects = s.objects := by
  cases c with
  | register r =>
    cases hr : Directory.register (s.policyOf id) (s.directory id) r with
    | error refusal => exact (register_of_error hr).2
    | ok accepted =>
      have hok : (Registry.register id r s).1 = .ok () := (register_of_ok hr).1
      change (Registry.register id r s).1.isOk = false at h
      rw [hok] at h
      cases h
  | restrict =>
    change (Registry.restrict id s).1.isOk = false at h
    change (Registry.restrict id s).2.objects = s.objects
    rcases restrict_cases id s with ⟨-, hr⟩ | ⟨-, -, hr, -⟩ | ⟨-, -, hr⟩
    · rw [hr] at h
      cases h
    · rw [hr] at h
      cases h
    · rw [hr]

lemma make_register_of_error {r : Directory.Request} {refusal : Directory.Refusal}
    (h : Directory.register (s.policyOf id) (s.directory id) r = .error refusal) :
    ((Run.make (Call.action id) (.register r) s).after.directory id = s.directory id)
      ∧ (Run.make (Call.action id) (.register r) s).outcome.isOk = false := by
  obtain ⟨hout, hobj⟩ := register_of_error h
  refine ⟨State.directory_eq_of_objects hobj id, ?_⟩
  change (Registry.register id r s).1.isOk = false
  rw [hout]
  rfl

lemma make_register_of_ok {r : Directory.Request} {acceptance : Directory.Acceptance}
    {directory : Directory} (hid : id.index < s.registries.next)
    (h : Directory.register (s.policyOf id) (s.directory id) r = .ok (acceptance, directory)) :
    ((Run.make (Call.action id) (.register r) s).after.directory id = directory)
      ∧ (Run.make (Call.action id) (.register r) s).outcome.isOk = true := by
  obtain ⟨hout, hobj⟩ := register_of_ok h
  constructor
  · change (Registry.register id r s).2.directory id = directory
    rw [State.directory_eq_of_objects hobj, State.directory_setDirectory_self hid]
  · change (Registry.register id r s).1.isOk = true
    rw [hout]
    rfl

lemma Tracks.congr {d d' : Directory} (h : Tracks d keyType as)
    (hfind : d'.find? keyType = d.find? keyType) : Tracks d' keyType as := by
  cases as with
  | nil => exact hfind.trans h
  | cons first later =>
    obtain ⟨entry, hentry, hdetermined⟩ := h
    exact ⟨entry, hfind.trans hentry, hdetermined⟩

/-- An entry that is there comes from an admitted registration. -/
lemma Tracks.eq_cons {d : Directory} {entry : DirectoryEntry} (h : Tracks d keyType as)
    (hfound : d.find? keyType = some entry) :
    ∃ first later, as = first :: later ∧ Determined first later entry := by
  cases as with
  | nil =>
    have hnone : d.find? keyType = none := h
    rw [hfound] at hnone
    cases hnone
  | cons first later =>
    obtain ⟨entry', hentry, hdetermined⟩ := h
    obtain rfl : entry' = entry := Option.some.inj (hentry.symm.trans hfound)
    exact ⟨first, later, rfl, hdetermined⟩

/-- What a registration that the policy allows adds to what is known of its key type. -/
lemma tracks_register {r : Directory.Request} (hid : id.index < s.registries.next)
    (h : Tracks (s.directory id) r.manager.keyType as)
    (hallowed : (s.policyOf id).allows r.declared = true) :
    Tracks ((Run.make (Call.action id) (.register r) s).after.directory id) r.manager.keyType
      (as ++ [⟨r, (Run.make (Call.action id) (.register r) s).outcome.isOk⟩]) := by
  generalize hresult : Directory.register (s.policyOf id) (s.directory id) r = result
  have hcases := Directory.registers_register (s.policyOf id) (s.directory id) r
  rw [hresult] at hcases
  cases hcases with
  | fips forbidden =>
    rw [hallowed] at forbidden
    cases forbidden
  | inserted _ new =>
    -- nothing was admitted before, so this registration is the first one
    obtain ⟨hdirectory, hok⟩ := make_register_of_ok hid hresult
    rw [hdirectory, hok]
    cases as with
    | nil =>
      exact ⟨r.entry, Directory.find?_insert_self .., Determined.first_entry r true⟩
    | cons first later =>
      obtain ⟨entry, hentry, -⟩ := h
      rw [new] at hentry
      cases hentry
  -- a refused registration counts only if it is of the same class, and then it changes no flag
  | otherClass _ found other =>
    obtain ⟨hdirectory, hok⟩ := make_register_of_error hresult
    obtain ⟨first, later, rfl, hdetermined⟩ := h.eq_cons found
    rw [hdirectory, hok]
    exact ⟨_, found, hdetermined.snoc_refused fun hsame => absurd hsame other⟩
  | newKeysDisallowed _ found same asked disallowed =>
    obtain ⟨hdirectory, hok⟩ := make_register_of_error hresult
    obtain ⟨first, later, rfl, hdetermined⟩ := h.eq_cons found
    rw [hdirectory, hok]
    exact ⟨_, found, hdetermined.snoc_refused fun _ => disallowed⟩
  | refreshed _ found same tightens =>
    obtain ⟨hdirectory, hok⟩ := make_register_of_ok hid hresult
    obtain ⟨first, later, rfl, hdetermined⟩ := h.eq_cons found
    rw [hdirectory, hok]
    exact ⟨_, Directory.find?_insert_self .., hdetermined.snoc_refreshed same tightens⟩

/-- A registration that the policy forbids, or of another key type, leaves the entry as it is. -/
lemma find?_make_register {r : Directory.Request} (hid : id.index < s.registries.next)
    (h : ¬ (r.manager.keyType = keyType ∧ (s.policyOf id).allows r.declared = true)) :
    ((Run.make (Call.action id) (.register r) s).after.directory id).find? keyType
      = (s.directory id).find? keyType := by
  generalize hresult : Directory.register (s.policyOf id) (s.directory id) r = result
  have hcases := Directory.registers_register (s.policyOf id) (s.directory id) r
  rw [hresult] at hcases
  cases hcases with
  | fips _ => rw [(make_register_of_error hresult).1]
  | otherClass _ _ _ => rw [(make_register_of_error hresult).1]
  | newKeysDisallowed _ _ _ _ _ => rw [(make_register_of_error hresult).1]
  | inserted allowed _ =>
    rw [(make_register_of_ok hid hresult).1]
    exact Directory.find?_insert_of_ne (fun hkey => h ⟨hkey.symm, allowed⟩) ..
  | refreshed allowed _ _ _ =>
    rw [(make_register_of_ok hid hresult).1]
    exact Directory.find?_insert_of_ne (fun hkey => h ⟨hkey.symm, allowed⟩) ..

/-- One call carries what is known of a key type on to the state it leaves. -/
lemma tracks_make (hid : id.index < s.registries.next) (c : Call)
    (h : Tracks (s.directory id) keyType as) :
    Tracks ((Run.make (Call.action id) c s).after.directory id) keyType
      (as ++ (admission? id keyType (Run.make (Call.action id) c s)).toList) := by
  cases c with
  | restrict =>
    change Tracks ((Registry.restrict id s).2.directory id) keyType (as ++ [])
    rwa [directory_restrict, List.append_nil]
  | register r =>
    change Tracks _ keyType (as ++ (if r.manager.keyType = keyType
      ∧ (s.policyOf id).allows r.declared = true
      then some (Admission.mk r (Run.make (Call.action id) (.register r) s).outcome.isOk)
      else none).toList)
    by_cases hadmitted : r.manager.keyType = keyType ∧ (s.policyOf id).allows r.declared = true
    · rw [if_pos hadmitted]
      obtain ⟨rfl, hallowed⟩ := hadmitted
      exact tracks_register hid h hallowed
    · rw [if_neg hadmitted, Option.toList_none, List.append_nil]
      exact h.congr (find?_make_register hid hadmitted)

end Step

/-! ## All calls -/

section Run

variable {id : RegistryId} {s : State} {keyType : String}

lemma tracks_final (hid : id.index < s.registries.next) {as : List Admission}
    (h : Tracks (s.directory id) keyType as) (calls : List Call) :
    Tracks ((Run.final (Call.action id) s calls).directory id) keyType
      (as ++ admissions id keyType (Run.history (Call.action id) s calls)) := by
  -- the admitted registrations so far are the invariant; every call adds its own
  induction calls generalizing s as with
  | nil => rwa [Run.history, admissions, List.filterMap_nil, List.append_nil]
  | cons c calls ih =>
    have hnext : id.index < (Run.make (Call.action id) c s).after.registries.next := by
      rwa [next_make]
    have hstep := ih hnext (tracks_make hid c h)
    rw [List.append_assoc] at hstep
    rw [Run.final, Run.history, admissions, List.filterMap_cons]
    cases hadmission : admission? id keyType (Run.make (Call.action id) c s) with
    | none =>
      rw [hadmission] at hstep
      exact hstep
    | some a =>
      rw [hadmission] at hstep
      exact hstep

lemma objects_of_mem_history {calls : List Call} {made : Run.Made Call}
    (hmade : made ∈ Run.history (Call.action id) s calls) (herror : made.outcome.isOk = false) :
    made.after.objects = made.before.objects := by
  obtain ⟨earlier, c, later, -, rfl⟩ := Run.exists_of_mem_history hmade
  exact objects_make_of_error herror

/-- The calls on a registry that was empty determine its entries.  A key type is registered if and
only if a registration of it was admitted; its class is that of the first one, new keys are allowed
if every admitted registration with that class allows them, and the manager is that of the first or
of the latest later one that was forced in.  Lookups go by what that manager can make, and a call
that failed changed nothing. -/
theorem entry_after_calls (hid : id.index < s.registries.next)
    (hempty : (s.directory id).isEmpty = true) (calls : List Call) (keyType : String) :
    let made := Run.history (Call.action id) s calls
    let t := Run.final (Call.action id) s calls
    ((isRegistered id keyType t).1 = .ok true ↔ admissions id keyType made ≠ [])
      ∧ (∀ first later, admissions id keyType made = first :: later →
          ∃ entry, (t.directory id).find? keyType = some entry
            ∧ entry.implementingClass = first.request.manager.implementingClass
            ∧ entry.newKeyAllowed
              = allAllow first.request.manager.implementingClass (first :: later)
            ∧ entry.manager = latestManager first later
            ∧ entry.primitives = entry.manager.primitives
            ∧ ∀ kind, (lookup id keyType kind t).1 = .ok entry.manager
                ↔ kind ∈ entry.manager.primitives)
      ∧ ∀ m ∈ made, m.outcome.isOk = false → m.after.objects = m.before.objects := by
  intro made t
  have hstart : Tracks (s.directory id) keyType [] := Directory.find?_of_isEmpty hempty keyType
  have htracks : Tracks (t.directory id) keyType (admissions id keyType made) :=
    tracks_final hid hstart calls
  refine ⟨?_, ?_, fun m hm => objects_of_mem_history hm⟩
  · rw [isRegistered_apply]
    cases hadmissions : admissions id keyType made with
    | nil =>
      rw [hadmissions] at htracks
      have hnone : (t.directory id).find? keyType = none := htracks
      simp [hnone]
    | cons first later =>
      rw [hadmissions] at htracks
      obtain ⟨entry, hentry, -⟩ := htracks
      simp [hentry]
  · intro first later hadmissions
    rw [hadmissions] at htracks
    obtain ⟨entry, hentry, hclass, hallowed, hmanager, hprimitives⟩ := htracks
    refine ⟨entry, hentry, hclass, ?_, hmanager, hprimitives, fun kind => ?_⟩
    · rw [← hclass, hallowed]
    · rw [lookup_eq_ok_iff hentry, hprimitives]

end Run

/-- A registration, a refused restriction and a forced registration on a new registry. -/
def threeCalls : List Call :=
  [.register { manager := .jwtSigner 0 ⟨0⟩ }, .restrict,
    .register { manager := .jwtSigner 1 ⟨0⟩, newKeyAllowed := false, force := true }]

/-- The forced registration decides the manager, and no new keys are allowed after it. -/
theorem entry_after_threeCalls :
    (⟨0⟩ : RegistryId).index < (create {} {}).2.registries.next
      ∧ ((create {} {}).2.directory ⟨0⟩).isEmpty = true
      ∧ ∃ entry, ((Run.final (Call.action ⟨0⟩) (create {} {}).2 threeCalls).directory ⟨0⟩).find?
          Jwt.privateKeyType = some entry
        ∧ entry.manager = .jwtSigner 1 ⟨0⟩ ∧ entry.newKeyAllowed = false := by
  have hid : (⟨0⟩ : RegistryId).index < (create {} {}).2.registries.next := by decide
  have hempty : ((create {} {}).2.directory ⟨0⟩).isEmpty = true := rfl
  obtain ⟨-, hentry, -⟩ := entry_after_calls hid hempty threeCalls Jwt.privateKeyType
  have hadmissions : admissions ⟨0⟩ Jwt.privateKeyType
      (Run.history (Call.action ⟨0⟩) (create {} {}).2 threeCalls)
      = [⟨{ manager := .jwtSigner 0 ⟨0⟩ }, true⟩,
        ⟨{ manager := .jwtSigner 1 ⟨0⟩, newKeyAllowed := false, force := true }, true⟩] := by
    rfl
  obtain ⟨entry, hfound, -, hallowed, hmanager, -, -⟩ := hentry _ _ hadmissions
  exact ⟨hid, hempty, entry, hfound, hmanager, hallowed⟩

end Keyring.Registry
