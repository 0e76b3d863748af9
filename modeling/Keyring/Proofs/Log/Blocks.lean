/-
# Blocks that bind log fields

Registering a manager and making a primitive are blocks that bind the key type.  Whatever is logged
in a block carries its fields over those that were bound before, and after the block, whether it
returned or failed, these are bound as they were.

* `Block` is a piece of a program that binds log fields by blocks, nested in any way; what happens
  within may fail, and failures may be caught.
* `Block.Under` lists the fields under which the work of such a piece is done.
* `Block.notes_action` goes through the pieces: what is logged is logged under these fields.
* `Registry.notes_register` and `Manager.notes_createPrimitive` are the two calls.
* `carried_and_restored` puts them together.
-/
import Keyring.Manager.Operations
import Keyring.Proofs.Log.Noting
import Keyring.Proofs.Named

namespace Keyring

/-- What the action logs carries the fields that are bound, and it binds none itself. -/
abbrev Action.Plain {α : Type} (x : Action α) : Prop :=
  x.Notes fun c d => d = c

lemma Action.plain_note (severity : Log.Severity) (source : Log.Source) (message : String) :
    (Action.note severity source message).Plain :=
  Action.Notes.note (P := fun c d => d = c) (fun _ => rfl) severity source message

/-- The fields with the key type under its name, in the name's place or else at the end. -/
structure Marked (keyType : String) (c d : Fields) : Prop where
  names : d.map (·.1)
    = if "type_url" ∈ c.map (·.1) then c.map (·.1) else c.map (·.1) ++ ["type_url"]
  keyType : d.lookup "type_url" = some (.text keyType)
  others : ∀ name, name ≠ "type_url" → d.lookup name = c.lookup name

lemma marked_insert (keyType : String) (c : Fields) :
    Marked keyType c (c.insert "type_url" (.text keyType)) := by
  rw [Fields.insert]
  constructor
  · exact Named.map_fst_put ..
  · rw [Named.lookup_put, if_pos rfl]
  · intro name hname
    rw [Named.lookup_put, if_neg hname]

/-! ## The two calls -/

/-- A block that binds a key type. -/
lemma Action.Plain.marked {α : Type} {body : Action α} (h : body.Plain) (keyType : String) :
    (Action.withBound [("type_url", .text keyType)] body).Notes (Marked keyType) :=
  (Action.Notes.withBound h _).mono fun c _ hd => hd ▸ marked_insert keyType c

namespace Registry

lemma plain_registerPlain (id : RegistryId) (r : Directory.Request) :
    (registerPlain id r).Plain := by
  refine Action.Notes.get_bind fun s => ?_
  cases Directory.register (s.policyOf id) (s.directory id) r with
  | error refusal =>
    exact (Action.Notes.count _).bind
      (fun _ => (Action.plain_note _ _ _).bind fun _ => .refuse _ _) s
  | ok accepted =>
    obtain ⟨acceptance, d⟩ := accepted
    have hrest : Action.Plain (do
        Action.count (.registration acceptance.outcome)
        if acceptance = .inserted then Action.note .info .registry r.note) := by
      refine (Action.Notes.count _).bind fun _ => ?_
      -- only a new key type is logged
      cases acceptance with
      | inserted => exact Action.plain_note _ _ _
      | refreshed => exact .pure ()
    exact hrest (s.setDirectory id d)

/-- However a registration ends, what it logs carries the key type. -/
lemma notes_register (id : RegistryId) (r : Directory.Request) :
    (register id r).Notes (Marked r.manager.keyType) :=
  (plain_registerPlain id r).marked r.manager.keyType

end Registry

lemma Jwt.PrivateKey.plain_makeSignerPlain (key : PrivateKey) (crypto : Rsa.CryptoModule) :
    (key.makeSignerPlain crypto).Plain := by
  rw [makeSignerPlain]
  cases key.signer crypto with
  | ok signer =>
    exact (Action.Notes.count _).bind fun _ => (Action.Notes.count _).bind fun _ => .pure _
  | error e =>
    by_cases he : e.kind = .selfTestFailure
    · simp only [he, if_true]
      exact (Action.Notes.count _).bind fun _ =>
        (Action.plain_note _ _ _).bind fun _ => .throw _
    · simp only [he, if_false]
      exact .throw _

/-- However making a primitive ends, what it logs carries the key type of the manager. -/
lemma Manager.notes_createPrimitive (m : Manager) (crypto : Rsa.CryptoModule) (key : Key) :
    (m.createPrimitive crypto key).Notes (Marked m.keyType) := by
  cases m with
  | jwtSigner serial policy =>
    cases key with
    | jwt key => exact ((key.plain_makeSignerPlain crypto).marked _).bind fun _ => .pure _
    | plain b => exact .throw _
  | external serial m =>
    cases key with
    | jwt key => exact .throw _
    | plain b => exact .pure _

/-! ## Nested blocks -/

/-- A piece of a program that binds log fields by blocks only. -/
inductive Block where
  | work (x : Action Unit) (plain : x.Plain)
  /-- A block that binds further fields. -/
  | bound (fields : Fields) (body : Block)
  | andThen (first second : Block)
  /-- What to do if the body fails goes by the failure. -/
  | attempt (body : Block) (handler : Failure → Block)
  /-- What comes next goes by the state. -/
  | depending (next : State → Block)

namespace Block

/-- What a piece does. -/
def action : Block → Action Unit
  | work x _ => x
  | bound fields body => Action.withBound fields body.action
  | andThen first second => do
    first.action
    second.action
  | attempt body handler => tryCatch body.action fun e => (handler e).action
  | depending next => do (next (← get)).action

/-- Begun with some fields bound, the piece does work with others bound: those of the blocks around
the work, one after the other from the outermost, over the first ones.  A field without a value is
passed over. -/
inductive Under : Block → Fields → Fields → Prop
  | work {x : Action Unit} {plain : x.Plain} {c : Fields} : Under (.work x plain) c c
  | bound {fields : Fields} {body : Block} {c d : Fields}
      (h : Under body (c.update (fields.filter fun (_, v) => !v.isNull)) d) :
      Under (.bound fields body) c d
  | first {first second : Block} {c d : Fields} (h : Under first c d) :
      Under (.andThen first second) c d
  | second {first second : Block} {c d : Fields} (h : Under second c d) :
      Under (.andThen first second) c d
  | body {body : Block} {handler : Failure → Block} {c d : Fields} (h : Under body c d) :
      Under (.attempt body handler) c d
  | handler {body : Block} {handler : Failure → Block} {c d : Fields} (e : Failure)
      (h : Under (handler e) c d) : Under (.attempt body handler) c d
  | depending {next : State → Block} {c d : Fields} (s : State) (h : Under (next s) c d) :
      Under (.depending next) c d

/-- A failure that is caught leaves the state to the handler. -/
lemma notes_tryCatch {P : Fields → Fields → Prop} {x : Action Unit} {f : Failure → Action Unit}
    (hx : x.Notes P) (hf : ∀ e, (f e).Notes P) : Action.Notes P (tryCatch x f) := by
  intro s
  have hbody := hx s
  rcases hrun : x s with ⟨e | a, t⟩ <;> rw [hrun] at hbody
  · have hhandler := hf e t
    rw [hbody.bound_eq] at hhandler
    rw [Action.tryCatch_of_error hrun]
    exact hbody.trans hhandler
  · rw [Action.tryCatch_of_ok hrun]
    exact hbody

/-- Whatever fails within, what a piece logs is logged under the fields of the blocks around it. -/
lemma notes_action (b : Block) : b.action.Notes b.Under := by
  induction b with
  | work x plain => exact plain.mono fun c d hd => hd ▸ .work
  | bound fields body ih => exact (Action.Notes.withBound ih fields).mono fun _ _ h => .bound h
  | andThen first second hfirst hsecond =>
    exact (hfirst.mono fun _ _ h => .first h).bind fun _ => hsecond.mono fun _ _ h => .second h
  | attempt body handler hbody hhandler =>
    exact notes_tryCatch (hbody.mono fun _ _ h => .body h)
      fun e => (hhandler e).mono fun _ _ h => .handler e h
  | depending next ih =>
    exact Action.Notes.get_bind fun s => (ih s s).mono fun _ h => .depending s h

end Block

/-! ## Calls and blocks -/

/-- Whatever is bound at first and however it ends: a registration and the making of a primitive log
with the key type put to what is bound, any nesting of blocks logs with the fields of the blocks put
to it, and afterwards it is bound as it was. -/
theorem carried_and_restored :
    (∀ (id : RegistryId) (r : Directory.Request) (s : State),
      (Registry.register id r s).2.journal.bound = s.journal.bound
        ∧ Noted (Marked r.manager.keyType s.journal.bound) s (Registry.register id r s).2)
      ∧ (∀ (m : Manager) (crypto : Rsa.CryptoModule) (key : Key) (s : State),
        (m.createPrimitive crypto key s).2.journal.bound = s.journal.bound
          ∧ Noted (Marked m.keyType s.journal.bound) s (m.createPrimitive crypto key s).2)
      ∧ ∀ (b : Block) (s : State), (b.action s).2.journal.bound = s.journal.bound
        ∧ Noted (b.Under s.journal.bound) s (b.action s).2 := by
  refine ⟨fun id r s => ?_, fun m crypto key s => ?_, fun b s => ?_⟩
  · have h := Registry.notes_register id r s
    exact ⟨h.bound_eq, h⟩
  · have h := m.notes_createPrimitive crypto key s
    exact ⟨h.bound_eq, h⟩
  · have h := b.notes_action s
    exact ⟨h.bound_eq, h⟩

end Keyring
