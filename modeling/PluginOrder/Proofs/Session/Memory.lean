import PluginOrder.Proofs.Resolution.Outcome
import PluginOrder.Session

/-!
# Resolutions have no memory

Plugins are shared, and every run of a session writes bindings into those that are registered, also
a run that is aborted by a cycle.  Yet a binding is never read.  Building a graph looks at what
every import asks for and binds it anew, so a catalogue is resolved as its copy without bindings is
(`Catalog.resolve_unbound`).  And a run changes nothing else: without their bindings the plugins are
after a run what they were before (`Session.unbound_take`), so runs can be left out of a history
(`Session.unbound_after`).

What a session answers is therefore decided by the plugins that are registered at the time, whatever
has been registered, replaced, removed, changed or resolved before (`Session.resolve_memoryless`).
-/

namespace PluginOrder

/-- An import that is bound to nothing. -/
def Import.unbound (i : Import) : Import := { i with target := none }

/-- A copy of a plugin with no import bound. -/
def Plugin.unbound (p : Plugin) : Plugin := { p with imports := p.imports.map Import.unbound }

/-- A copy of a catalogue with no import bound. -/
def Catalog.unbound (catalog : Catalog) : Catalog := catalog.mapValues fun _ p => p.unbound

/-! ## Bindings are not read -/

namespace Building

variable (c : Config) (catalog : Catalog) (importer : String)

theorem addImport_unbound (b : Building) (i : Import) :
    addImport c catalog.unbound importer b i.unbound = addImport c catalog importer b i := by
  have houtcome : i.unbound.validate c (catalog.unbound.get? i.sourcePlugin) =
      i.validate c (catalog.get? i.sourcePlugin) := by
    rw [Catalog.unbound, Ledger.get?_mapValues]
    cases catalog.get? i.sourcePlugin <;> rfl
  have hsource : i.unbound.sourcePlugin = i.sourcePlugin := rfl
  unfold addImport
  rw [hsource, houtcome]
  rfl

theorem addImports_unbound (b : Building) (imports : List Import) :
    addImports c catalog.unbound importer b (imports.map Import.unbound) =
      addImports c catalog importer b imports := by
  induction imports generalizing b with
  | nil => rfl
  | cons i rest ih => simp only [List.map_cons, addImports, addImport_unbound, ih]

theorem addPlugin_unbound (b : Building) (key : String) (p : Plugin) :
    addPlugin c catalog.unbound b key p.unbound = addPlugin c catalog b key p := by
  have hempty : p.unbound.hasImports = p.hasImports := by simp [Plugin.hasImports, Plugin.unbound]
  have hall := addImports_unbound c catalog key (b.ensureNode key) p.imports
  unfold addPlugin
  rw [hempty]
  by_cases himports : p.hasImports = true
  · simp only [himports, if_true, Plugin.unbound, hall]
  · have hnone : p.imports = [] := by simpa [Plugin.hasImports] using himports
    have hsame : p.unbound = p := by rw [Plugin.unbound, hnone, List.map_nil, ← hnone]
    simp only [if_neg himports, hsame]

end Building

namespace Catalog

theorem buildGraph_unbound (c : Config) (catalog : Catalog) :
    catalog.unbound.buildGraph c = catalog.buildGraph c := by
  have htraverse : catalog.unbound.traverse (Building.addPlugin c catalog.unbound) ⟨∅, []⟩ =
      catalog.traverse (Building.addPlugin c catalog) ⟨∅, []⟩ := by
    refine (Ledger.traverse_mapValues _ _ _ _).trans ?_
    simp only [Building.addPlugin_unbound]
  unfold buildGraph
  rw [htraverse]

/-- **A catalogue is resolved as its copy without bindings is**, and leaves the same behind. -/
theorem resolve_unbound (c : Config) (catalog : Catalog) :
    catalog.unbound.resolve c = catalog.resolve c := by
  have hsize : catalog.unbound.size = catalog.size := by
    simp [Ledger.size, unbound, Ledger.mapValues]
  unfold resolve
  rw [buildGraph_unbound, hsize]

end Catalog

/-! ## What a run writes back -/

/-- Steps that bind the imports of the registered plugins. -/
def Step.isRun {n : Nat} : Step n → Bool
  | .graph | .resolve => true
  | _ => false

namespace Session

variable {n : Nat}

/-- The session with no import bound, registered or not. -/
def unbound (s : Session n) : Session n := { s with store := s.store.map Plugin.unbound }

/-- The session after some steps, each taken under a configuration of its own. -/
def after (s : Session n) (steps : List (Config × Step n)) : Session n :=
  steps.foldl (fun s step => (s.take step.1 step.2).session) s

theorem get_unbound (s : Session n) (handle : Fin n) :
    s.unbound.store.get handle = (s.store.get handle).unbound :=
  Vector.getElem_map Plugin.unbound handle.isLt

theorem catalog_unbound (s : Session n) : s.unbound.catalog = s.catalog.unbound := by
  refine Ledger.ext_entries ?_
  simp only [catalog, Registry.catalog, Catalog.unbound, Ledger.mapValues, List.map_map,
    Function.comp_def, get_unbound]
  rfl

theorem get_set (store : Store n) (handle other : Fin n) (p : Plugin) :
    (store.set handle p handle.isLt).get other = if handle = other then p else store.get other := by
  have hget : (store.set handle p handle.isLt)[other.val] =
      if handle.val = other.val then p else store[other.val] :=
    Vector.getElem_set handle.isLt other.isLt
  by_cases heq : handle = other
  · rw [if_pos heq]
    exact hget.trans (if_pos (congrArg Fin.val heq))
  · rw [if_neg heq]
    exact hget.trans (if_neg fun hval => heq (Fin.ext hval))

theorem get_foldl_set {catalog : Catalog} {q : Fin n → Plugin} {entries : List (String × Fin n)}
    (hq : ∀ entry ∈ entries, catalog.get? entry.1 = some (q entry.2)) (store : Store n)
    (handle : Fin n) :
    let written := entries.foldl (fun store (key, handle) =>
      match catalog.get? key with
      | some p => store.set handle p handle.isLt
      | none => store) store
    written.get handle = q handle ∨
      written.get handle = store.get handle ∧ handle ∉ entries.map Prod.snd := by
  induction entries generalizing store with
  | nil => exact Or.inr ⟨rfl, List.not_mem_nil⟩
  | cons entry rest ih =>
      rw [List.forall_mem_cons] at hq
      obtain ⟨key, first⟩ := entry
      have hfirst : catalog.get? key = some (q first) := hq.1
      simp only [List.foldl_cons, hfirst]
      -- a handle may be registered under several keys, and gets the same plugin for each of them
      rcases ih hq.2 (store.set first (q first) first.isLt) with hwritten | ⟨hsame, hrest⟩
      · exact Or.inl hwritten
      · rw [get_set] at hsame
        by_cases heq : first = handle
        · rw [if_pos heq] at hsame
          exact Or.inl (hsame.trans (congrArg q heq))
        · rw [if_neg heq] at hsame
          exact Or.inr ⟨hsame, List.not_mem_cons_of_ne_of_not_mem (Ne.symm heq) hrest⟩

/-- Once the catalogue is written back with its imports bound, the registered plugins have them
bound and all others are as they were. -/
theorem get_writeBack (c : Config) (s : Session n) (handle : Fin n) :
    (s.writeBack (s.catalog.rebind c)).store.get handle =
        s.catalog.rebindPlugin c (s.store.get handle) ∨
      (s.writeBack (s.catalog.rebind c)).store.get handle = s.store.get handle ∧
        handle ∉ s.registry.values := by
  refine get_foldl_set (q := fun handle => s.catalog.rebindPlugin c (s.store.get handle)) ?_ _ _
  intro entry hentry
  have hhandle : s.registry.get? entry.1 = some entry.2 := Ledger.get?_eq_some_iff.mpr hentry
  have hp : s.catalog.get? entry.1 = some (s.store.get entry.2) := by
    rw [catalog, Registry.catalog, Ledger.get?_mapValues, hhandle, Option.map_some]
  rw [Catalog.get?_rebind, hp, Option.map_some]

theorem catalog_writeBack (c : Config) (s : Session n) :
    (s.writeBack (s.catalog.rebind c)).catalog = s.catalog.rebind c := by
  have hentries : s.registry.entries.map (fun entry =>
        (entry.1, (s.writeBack (s.catalog.rebind c)).store.get entry.2)) =
      s.registry.entries.map fun entry =>
        (entry.1, s.catalog.rebindPlugin c (s.store.get entry.2)) := by
    refine List.map_congr_left fun entry hentry => ?_
    have hmem : entry.2 ∈ s.registry.values := List.mem_map_of_mem hentry
    have hget := (get_writeBack c s entry.2).resolve_right fun hother => hother.2 hmem
    rw [hget]
  refine Ledger.ext_entries (hentries.trans ?_)
  simp [Catalog.rebind, catalog, Registry.catalog, Ledger.mapValues]

/-- Binding imports and then forgetting what they are bound to is forgetting it. -/
theorem unbound_rebindPlugin (c : Config) (catalog : Catalog) (p : Plugin) :
    (catalog.rebindPlugin c p).unbound = p.unbound := by
  simp [Plugin.unbound, Catalog.rebindPlugin, Function.comp_def, Catalog.rebindImport,
    Import.unbound]

theorem unbound_writeBack (c : Config) (s : Session n) :
    (s.writeBack (s.catalog.rebind c)).unbound = s.unbound := by
  have hstore : (s.writeBack (s.catalog.rebind c)).store.map Plugin.unbound =
      s.store.map Plugin.unbound := by
    refine Vector.ext fun i hi => ?_
    rw [Vector.getElem_map, Vector.getElem_map]
    rcases get_writeBack c s ⟨i, hi⟩ with hbound | ⟨hsame, _⟩
    · exact (congrArg Plugin.unbound hbound).trans (unbound_rebindPlugin c s.catalog _)
    · exact congrArg Plugin.unbound hsame
  exact congrArg (Session.mk · s.registry) hstore

/-! ## Histories without runs -/

theorem register_unbound (s : Session n) (handle : Fin n) (replace : Bool) :
    s.registry.register s.unbound.store handle replace =
      s.registry.register s.store handle replace := by
  simp only [Registry.register, get_unbound, Plugin.unbound, List.length_map]

theorem unbound_withRange (p : Plugin) (position : Nat) (range : Value) :
    (withRange p position range).unbound = withRange p.unbound position range := by
  have himports : (p.imports.modify position fun i => { i with versionRange := range }).map
      Import.unbound =
      (p.imports.map Import.unbound).modify position fun i => { i with versionRange := range } := by
    refine List.ext_getElem? fun m => ?_
    simp only [List.getElem?_map, List.getElem?_modify]
    split <;> cases p.imports[m]? <;> rfl
  simp only [withRange, Plugin.unbound, himports]

theorem unbound_withKey {s : Session n} {id : Value} {result result' : StepResult n}
    (h : result.session.unbound = result'.session) :
    (s.withKey id result).session.unbound = (s.unbound.withKey id result').session := by
  cases id <;> first | rfl | exact h

/-- **A run changes nothing but bindings, and no other step looks at them.** -/
theorem unbound_take (c : Config) (s : Session n) (step : Step n) :
    (s.take c step).session.unbound =
      if step.isRun then s.unbound else (s.unbound.take c step).session := by
  cases step with
  | register handle replace =>
      have hregister := register_unbound s handle replace
      have hregistry : s.unbound.registry = s.registry := rfl
      simp only [take, hregistry, hregister]
      cases s.registry.register s.store handle replace <;> rfl
  | unregister id =>
      refine unbound_withKey ?_
      simp only [unbound]
      cases s.registry.unregister id <;> rfl
  | require id =>
      refine unbound_withKey ?_
      simp only [unbound]
      cases s.registry.require id <;> rfl
  | item id =>
      refine unbound_withKey ?_
      simp only [unbound]
      cases s.registry.find? id <;> rfl
  | find id => exact unbound_withKey rfl
  | contains id => exact unbound_withKey rfl
  | size => rfl
  | clear => rfl
  | list => rfl
  | graph =>
      simp only [take, Catalog.catalog_buildGraph]
      exact unbound_writeBack c s
  | resolve =>
      simp only [take, Catalog.catalog_resolve]
      exact unbound_writeBack c s
  | bindings handle => rfl
  | setRange handle position range =>
      have hlength : (s.store.get handle).unbound.imports.length =
          (s.store.get handle).imports.length := List.length_map _
      simp only [take, get_unbound, hlength]
      cases position? (s.store.get handle).imports.length position with
      | none => rfl
      | some number =>
          -- changing a range and forgetting the bindings can be done in either order
          have hset := congrArg (s.unbound.store.set handle · handle.isLt)
            (unbound_withRange (s.store.get handle) number range)
          exact congrArg (Session.mk · s.registry) (Vector.map_set.trans hset)

/-- **Runs leave no trace.**  A history comes to the same plugins without its runs, but for what
their imports are bound to. -/
theorem unbound_after (s : Session n) (steps : List (Config × Step n)) :
    (s.after steps).unbound = s.unbound.after (steps.filter fun step => !step.2.isRun) := by
  induction steps generalizing s with
  | nil => rfl
  | cons step rest ih =>
      have hfirst := unbound_take step.1 s step.2
      rw [after, List.foldl_cons, ← after, ih, hfirst]
      -- a run is left out on the right, and any other step is taken on both sides
      cases hrun : step.2.isRun with
      | true => rw [List.filter_cons_of_neg (by simp [hrun]), if_pos rfl]
      | false =>
          rw [List.filter_cons_of_pos (by simp [hrun]), if_neg Bool.false_ne_true]
          rfl

/-- **A resolution has no memory.**  After any steps it answers, reports and binds as a resolution
of a fresh catalogue does that has copies without bindings of the plugins registered by then, in the
same order.  Which plugins these are does not depend on the runs among the steps. -/
theorem resolve_memoryless (s : Session n) (steps : List (Config × Step n)) (c : Config) :
    let now := s.after steps
    let fresh := now.catalog.unbound.resolve c
    (now.take c .resolve).answer =
        (match fresh.answer with
        | .ok r => .ok (.resolution r)
        | .error fault => .error (.resolution fault)) ∧
      (now.take c .resolve).session.catalog = fresh.catalog ∧
      (now.take c .resolve).journal = fresh.journal ∧
      now.catalog.unbound = (s.unbound.after (steps.filter fun step => !step.2.isRun)).catalog := by
  intro now fresh
  have hfresh : fresh = now.catalog.resolve c := Catalog.resolve_unbound c now.catalog
  have hwritten : (now.take c .resolve).session.catalog = now.catalog.rebind c := by
    simp only [take, Catalog.catalog_resolve]
    exact catalog_writeBack c now
  refine ⟨?_, ?_, ?_, ?_⟩
  · rw [hfresh]
    rfl
  · rw [hwritten, hfresh, Catalog.catalog_resolve]
  · rw [hfresh]
    rfl
  · rw [← unbound_after, catalog_unbound]

end Session

end PluginOrder
