import PluginOrder.Proofs.Plugin.Registry
import PluginOrder.Proofs.Session.Memory
import PluginOrder.Proofs.Session.Tenure

/-!
# Sessions follow their histories

The registry of a session is an ordered map, and which one can be told without it: the roll of the
history says who is registered and in which order (`Tells`), and the history says what each step is
to answer (`History.answer?`).  One step keeps the registry in accord with the history, so any
number of steps does (`tells_after`).  Steps that fail are steps of the history like all others.
They touch no tenure, and they leave the session as it was (`session_of_error`).

A session begins with a list of plugins that are registered one after the other, either each under
an identifier of its own, or with later plugins in the place of earlier ones.  `follows_history`
puts the two together.
-/

namespace PluginOrder

variable {n : Nat}

/-- Steps that only look at the registry or at a plugin. -/
def Step.isLook : Step n → Bool
  | .require _ | .item _ | .find _ | .contains _ | .size | .list | .bindings _ => true
  | _ => false

namespace Session

theorem session_withKey {s : Session n} {id : Value} {result : StepResult n}
    (h : result.session = s) : (s.withKey id result).session = s := by
  cases id <;> first | rfl | exact h

theorem session_of_isLook {s : Session n} {step : Step n} (c : Config) (h : step.isLook = true) :
    (s.take c step).session = s := by
  cases step with
  | require id =>
      refine session_withKey ?_
      cases s.registry.require id <;> rfl
  | item id =>
      refine session_withKey ?_
      cases s.registry.find? id <;> rfl
  | find id => exact session_withKey rfl
  | contains id => exact session_withKey rfl
  | size => rfl
  | list => rfl
  | bindings handle => rfl
  | _ => cases h

/-- What a step can do to a session: change its registry, bind the imports of the registered
plugins, or change a range. -/
theorem session_take (c : Config) (s : Session n) (step : Step n) :
    (s.take c step).session =
      match step with
      | .graph | .resolve => s.writeBack (s.catalog.rebind c)
      | .setRange handle position range =>
        match position? (s.store.get handle).imports.length position with
        | some number =>
          { s with
            store := s.store.set handle (withRange (s.store.get handle) number range) handle.isLt }
        | none => s
      | step => { s with registry := s.registry.change s.store.identifier step } := by
  cases step with
  | register handle replace =>
      cases h : s.registry.contains (s.store.identifier handle) && !replace with
      | true => simp [take, Registry.register_refused h, Registry.change, h, refuse]
      | false =>
          obtain ⟨journal, haccepted⟩ := Registry.register_accepted h
          simp only [take, haccepted, Registry.change, h]
          rfl
  | unregister id =>
      cases id with
      | text key =>
          simp only [take, withKey, Registry.unregister, Registry.find?, Registry.change]
          -- an identifier that nobody has cannot be given up; erasing it changes nothing
          cases hkey : s.registry.get? key with
          | some handle => rfl
          | none =>
              rw [Ledger.erase_of_not_mem (Ledger.get?_eq_none_iff.mp hkey)]
              rfl
      | _ => rfl
  | clear => rfl
  | graph => simp only [take, Catalog.catalog_buildGraph]
  | resolve => simp only [take, Catalog.catalog_resolve]
  | setRange handle position range =>
      simp only [take]
      cases position? (s.store.get handle).imports.length position <;> rfl
  | _ => exact session_of_isLook c rfl

theorem registry_take (c : Config) (s : Session n) (step : Step n) :
    (s.take c step).session.registry = s.registry.change s.store.identifier step := by
  rw [session_take]
  cases step with
  | setRange handle position range =>
      dsimp only
      split <;> rfl
  | _ => rfl

/-- No step renames a plugin. -/
theorem identifier_take (c : Config) (s : Session n) (step : Step n) :
    (s.take c step).session.store.identifier = s.store.identifier := by
  -- a plugin is written back as it was but for what its imports are bound to
  have hbound : (s.writeBack (s.catalog.rebind c)).store.identifier = s.store.identifier := by
    funext handle
    rcases get_writeBack c s handle with hbound | ⟨hsame, _⟩
    · exact (congrArg Plugin.identifier hbound).trans rfl
    · exact congrArg Plugin.identifier hsame
  rw [session_take]
  cases step with
  | graph => exact hbound
  | resolve => exact hbound
  | setRange handle position range =>
      dsimp only
      split
      · funext other
        rw [Store.identifier, get_set]
        split
        · rename_i heq
          rw [← heq]
          rfl
        · rfl
      · rfl
  | _ => rfl

/-- **Apart from a resolution, a step that fails changes nothing.** -/
theorem session_of_error {c : Config} {s : Session n} {step : Step n} {fault : StepFault}
    (h : (s.take c step).answer = .error fault) (hother : ∀ other, fault ≠ .resolution other) :
    (s.take c step).session = s := by
  cases step with
  | register handle replace =>
      cases hguard : s.registry.contains (s.store.identifier handle) && !replace with
      | true =>
          simp only [take, Registry.register_refused hguard]
          rfl
      | false =>
          obtain ⟨journal, haccepted⟩ := Registry.register_accepted hguard
          simp only [take, haccepted] at h
          cases h
  | unregister id =>
      refine session_withKey ?_
      cases id with
      | text key =>
          simp only [take, withKey, Registry.unregister] at h ⊢
          cases hfind : s.registry.find? (.text key) with
          | none => rfl
          | some handle =>
              simp only [hfind] at h
              cases h
      | _ => rfl
  | clear => cases h
  | graph => cases h
  | resolve =>
      simp only [take] at h
      cases hanswer : (s.catalog.resolve c).answer with
      | ok r =>
          rw [hanswer] at h
          cases h
      | error other =>
          rw [hanswer] at h
          cases h
          exact absurd rfl (hother other)
  | setRange handle position range =>
      simp only [take] at h ⊢
      cases hposition : position? (s.store.get handle).imports.length position with
      | none => rfl
      | some number =>
          rw [hposition] at h
          cases h
  | _ => exact session_of_isLook c rfl

end Session

/-! ## What a history answers -/

namespace History

variable (identify : Fin n → String) (plugin : Fin n → Plugin) (history : History n)

/-- The plugin that has an identifier.  A value that is no text identifies nothing. -/
def find? : Value → Option (Fin n)
  | .text id => (history.standing identify id).map Tenure.handle
  | _ => none

/-- An answer by an identifier, which can be no collection. -/
def keyed (id : Value) (answer : Except StepFault Answer) : Except StepFault Answer :=
  match id with
  | .list _ | .map _ | .set _ => .error (.collectionAsKey id)
  | _ => answer

/-- What a step on the registry is to answer after a history. -/
def answer? : Step n → Option (Except StepFault Answer)
  | .register handle replace =>
    if (history.standing identify (identify handle)).isSome && !replace then
      some (.error (.plugin (.duplicate (.text (identify handle)))))
    else some (.ok .done)
  | .unregister id | .require id =>
    some (keyed id
      (match history.find? identify id with
      | some handle => .ok (.plugin (some (plugin handle)))
      | none => .error (.plugin (.notFound id))))
  | .item id =>
    some (keyed id
      (match history.find? identify id with
      | some handle => .ok (.plugin (some (plugin handle)))
      | none => .error (.missingKey id)))
  | .find id => some (keyed id (.ok (.plugin ((history.find? identify id).map plugin))))
  | .contains id => some (keyed id (.ok (.flag (history.find? identify id).isSome)))
  | .size => some (.ok (.number (history.roll identify).length))
  | .clear => some (.ok .done)
  | .list => some (.ok (.plugins ((history.roll identify).map fun entry => plugin entry.2)))
  | _ => none

end History

namespace Session

open History

theorem answer_withKey (s : Session n) (id : Value) (result : StepResult n) :
    (s.withKey id result).answer = keyed id result.answer := by
  cases id <;> rfl

/-- **A session answers what its history does.** -/
theorem answer_take {s : Session n} {history : History n}
    (h : Tells s.store.identifier history s.registry) (c : Config) {step : Step n}
    {answer : Except StepFault Answer}
    (hanswer : history.answer? s.store.identifier s.store.get step = some answer) :
    (s.take c step).answer = answer := by
  -- the registry finds what the history says is registered
  have hfind : ∀ id, s.registry.find? id = history.find? s.store.identifier id := by
    intro id
    cases id with
    | text key => exact h.get?_eq key
    | _ => rfl
  cases step with
  | register handle replace =>
      have hcontains := h.contains_eq (s.store.identifier handle)
      rw [answer?, ← hcontains] at hanswer
      cases hguard : s.registry.contains (s.store.identifier handle) && !replace with
      | true =>
          rw [hguard] at hanswer
          cases hanswer
          simp only [take, Registry.register_refused hguard]
          rfl
      | false =>
          obtain ⟨journal, haccepted⟩ := Registry.register_accepted hguard
          rw [hguard] at hanswer
          cases hanswer
          simp only [take, haccepted]
  | unregister id =>
      cases hanswer
      rw [take, answer_withKey, ← hfind]
      cases id with
      | text key =>
          simp only [Registry.unregister]
          cases s.registry.find? (.text key) <;> rfl
      | _ => rfl
  | require id =>
      cases hanswer
      rw [take, answer_withKey, ← hfind, Registry.require]
      cases s.registry.find? id <;> rfl
  | item id =>
      cases hanswer
      rw [take, answer_withKey, ← hfind]
      cases s.registry.find? id <;> rfl
  | find id =>
      cases hanswer
      rw [take, answer_withKey, ← hfind]
      rfl
  | contains id =>
      cases hanswer
      rw [take, answer_withKey, ← hfind]
      rfl
  | size =>
      cases hanswer
      rw [take, ← h.entries_eq]
      rfl
  | clear =>
      cases hanswer
      rfl
  | list =>
      cases hanswer
      rw [take, ← h.entries_eq]
      simp [reply, catalog, Registry.catalog, Ledger.values, Ledger.mapValues]
  | _ => cases hanswer

/-! ## From one step to all steps -/

/-- The plugins that a session begins with are the first part of its history. -/
theorem tells_registerAll {store : Store n} {replace : Bool} {r r' : Registry n}
    {handles : List (Fin n)} {history : History n} (h : Tells store.identifier history r)
    (hall : ∃ journal, Registry.registerAll store replace r handles = .ok (r', journal)) :
    Tells store.identifier (history ++ handles.map (.register · replace)) r' := by
  induction handles generalizing r history with
  | nil =>
      obtain ⟨journal, hnil⟩ := hall
      cases hnil
      rwa [List.map_nil, List.append_nil]
  | cons handle rest ih =>
      obtain ⟨hfree, hrest⟩ := Registry.registerAll_cons.mp hall
      have hfirst := h.change (.register handle replace)
      simp only [Registry.change, hfree] at hfirst
      have hothers := ih hfirst hrest
      rwa [List.append_assoc, List.singleton_append] at hothers

theorem tells_after {s : Session n} {history : History n}
    (h : Tells s.store.identifier history s.registry) (steps : List (Config × Step n)) :
    (s.after steps).store.identifier = s.store.identifier ∧
      Tells s.store.identifier (history ++ steps.map Prod.snd) (s.after steps).registry := by
  induction steps generalizing s history with
  | nil =>
      rw [List.map_nil, List.append_nil]
      exact ⟨rfl, h⟩
  | cons step rest ih =>
      have hidentifier := identifier_take step.1 s step.2
      have hstep : Tells (s.take step.1 step.2).session.store.identifier (history ++ [step.2])
          (s.take step.1 step.2).session.registry := by
        rw [hidentifier, registry_take]
        exact h.change step.2
      obtain ⟨hsame, hrest⟩ := ih hstep
      rw [hidentifier] at hsame hrest
      rw [List.append_assoc, List.singleton_append] at hrest
      exact ⟨hsame, hrest⟩

/-- A session is in accord with a history: the registry is the roll of the history, each plugin
stands under its own identifier, the steps on the registry answer what the history says, and one
that fails leaves everything as it is. -/
structure Follows (identify : Fin n → String) (history : History n) (s : Session n) : Prop where
  entries_eq : s.registry.entries = history.roll identify
  nodup_keys : s.registry.keys.Nodup
  get?_eq : ∀ id, s.registry.get? id = (history.standing identify id).map Tenure.handle
  key_eq : ∀ entry ∈ s.registry.entries, (s.store.get entry.2).identifier = entry.1
  answer_eq : ∀ c step answer, history.answer? identify s.store.get step = some answer →
    (s.take c step).answer = answer
  unchanged : ∀ c step fault, (s.take c step).answer = .error fault →
    (∀ other, fault ≠ .resolution other) → (s.take c step).session = s

theorem follows_of_tells {s : Session n} {history : History n}
    (h : Tells s.store.identifier history s.registry) : Follows s.store.identifier history s where
  entries_eq := h.entries_eq
  nodup_keys := s.registry.nodup_keys
  get?_eq := h.get?_eq
  key_eq := by
    rintro ⟨key, handle⟩ hentry
    have hget := h.get?_eq key
    rw [Ledger.get?_eq_some_iff.mpr hentry] at hget
    obtain ⟨tenure, htenure, rfl⟩ := Option.map_eq_some_iff.mp hget.symm
    exact (standing_eq_some htenure).2
  answer_eq := fun c _ _ hanswer => answer_take h c hanswer
  unchanged := fun _ _ _ hfault hother => session_of_error hfault hother

/-- **A session follows its history.**  It begins with plugins that have different identifiers, or
with plugins that replace each other, and then each identifier stands where it occurs first, with
the plugin that has it last.  After any steps the session is in accord with all that has been
registered and done. -/
theorem follows_history (store : Store n) (init : List (Fin n)) :
    ((∃ r journal, Registry.registerAll store false ∅ init = .ok (r, journal)) ↔
        (init.map store.identifier).Nodup) ∧
      (∃ r journal, Registry.registerAll store true ∅ init = .ok (r, journal) ∧
        r.keys = (init.map store.identifier).eraseDups ∧
        ∀ id, r.get? id = (init.filter fun handle => store.identifier handle = id).getLast?) ∧
      ∀ replace r journal, Registry.registerAll store replace ∅ init = .ok (r, journal) →
        ∀ steps : List (Config × Step n),
          Follows store.identifier (init.map (.register · replace) ++ steps.map Prod.snd)
            ((Session.mk store r).after steps) := by
  refine ⟨?_, ?_, ?_⟩
  · rw [Registry.registerAll_distinct]
    simp
  · obtain ⟨r, ⟨journal, hall⟩, hkeys, hget⟩ := Registry.registerAll_replacing store ∅ init
    refine ⟨r, journal, hall, ?_, fun id => ?_⟩
    · simpa [List.removeAll] using hkeys
    · simpa using hget id
  · intro replace r journal hall steps
    have hstart : Tells store.identifier (init.map (.register · replace)) r :=
      tells_registerAll tells_nil ⟨journal, hall⟩
    obtain ⟨hsame, hsteps⟩ := tells_after (s := ⟨store, r⟩) hstart steps
    have hnow : Tells ((Session.mk store r).after steps).store.identifier
        (init.map (.register · replace) ++ steps.map Prod.snd)
        ((Session.mk store r).after steps).registry := hsame ▸ hsteps
    exact hsame ▸ follows_of_tells hnow

/-- Four plugins, of which the first and the third one have the same identifier. -/
def ensemble : Store 4 :=
  #v[⟨"viola", none, [], []⟩, ⟨"cello", none, [], []⟩, ⟨"viola", some "2.0.0", [], []⟩,
    ⟨"oboe", none, [], []⟩]

/-- Steps by which `viola` gives up the first place; the first step fails, and so does the last but
one. -/
def rehearsal : List (Config × Step 4) :=
  [.register 0 false, .register 3 false, .register 1 true, .unregister (.text "viola"),
    .item (.text "viola"), .register 0 false].map fun step => (.default, step)

theorem follows_history_ensemble :
    ∃ r journal, Registry.registerAll ensemble true ∅ [0, 1, 2] = .ok (r, journal) ∧
      r.entries = [("viola", 2), ("cello", 1)] ∧
      ((Session.mk ensemble r).after rehearsal).registry.entries =
        [("cello", 1), ("oboe", 3), ("viola", 0)] ∧
      Follows ensemble.identifier
        ([0, 1, 2].map (.register · true) ++ rehearsal.map Prod.snd)
        ((Session.mk ensemble r).after rehearsal) :=
  ⟨_, _, rfl, rfl, rfl, (follows_history ensemble [0, 1, 2]).2.2 true _ _ rfl rehearsal⟩

end Session

end PluginOrder
