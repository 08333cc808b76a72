import PluginOrder.Proofs.Session.Memory

/-!
# What a run changes, and what it leaves alone

Plugins are shared, so what a run writes is seen by everybody who holds one of them.  Building a
graph and resolving write the same: the imports of the registered plugins are bound anew, before the
graph is sorted, and so also when the sort halts at a cycle later on.

`Session.Rebinds` is the frame of a run.  On the one side, every import of every registered plugin
is bound to what it is matched with among the plugins that are registered now, or to nothing,
whatever it was bound to before and whatever becomes of its plugin.  On the other side, all else is
as it was: the registry, the registered plugins but for what their imports are bound to, and the
other plugins with everything in them, the bindings from the time when they were registered
included.
-/

namespace PluginOrder

/-- What an import is matched with does not depend on any binding. -/
theorem Catalog.outcome_rebind (c : Config) (catalog : Catalog) (i : Import) :
    i.validate c ((catalog.rebind c).get? i.sourcePlugin) =
      i.validate c (catalog.get? i.sourcePlugin) := by
  rw [get?_rebind]
  cases catalog.get? i.sourcePlugin <;> rfl

/-- The imports of a plugin that was bound anew. -/
theorem Catalog.target_of_mem_rebindPlugin {c : Config} {catalog : Catalog} {p : Plugin}
    {i : Import}
    (hi : i ∈ (catalog.rebindPlugin c p).imports) :
    i.target = (i.validate c (catalog.get? i.sourcePlugin)).target? := by
  obtain ⟨old, _, rfl⟩ := List.mem_map.mp hi
  -- the old import and the new one differ only in the binding, which matching does not read
  rfl

namespace Session

variable {n : Nat}

/-- The frame of a run: what differs between a session before it and after it. -/
structure Rebinds (c : Config) (s s' : Session n) : Prop where
  /-- The same handles are registered under the same keys, in the same order. -/
  registry_eq : s'.registry = s.registry
  /-- The imports of the registered plugins are bound to what they are matched with now. -/
  target_eq : ∀ handle ∈ s.registry.values, ∀ i ∈ (s'.store.get handle).imports,
    i.target = (i.validate c (s'.catalog.get? i.sourcePlugin)).target?
  /-- But for bindings, every plugin is as it was. -/
  unbound_eq : ∀ handle, (s'.store.get handle).unbound = (s.store.get handle).unbound
  /-- A plugin that is not registered is as it was. -/
  get_eq : ∀ handle ∉ s.registry.values, s'.store.get handle = s.store.get handle

/-- What no entry of a row writes to is left alone by all of them. -/
theorem get_foldl_of_not_mem {handle : Fin n} {write : Store n → String × Fin n → Store n}
    (hwrite : ∀ store entry, handle ≠ entry.2 → (write store entry).get handle = store.get handle)
    {entries : List (String × Fin n)} (hfree : handle ∉ entries.map Prod.snd) (store : Store n) :
    (entries.foldl write store).get handle = store.get handle := by
  induction entries generalizing store with
  | nil => rfl
  | cons entry rest ih =>
      rw [List.map_cons, List.mem_cons, not_or] at hfree
      calc ((entry :: rest).foldl write store).get handle
          = (write store entry).get handle := ih hfree.2 (write store entry)
        _ = store.get handle := hwrite store entry hfree.1

/-- Writing a catalogue back leaves the plugins alone that are not registered. -/
theorem get_writeBack_of_not_mem (s : Session n) (catalog : Catalog) {handle : Fin n}
    (hfree : handle ∉ s.registry.values) :
    (s.writeBack catalog).store.get handle = s.store.get handle := by
  apply get_foldl_of_not_mem _ hfree
  rintro store ⟨key, other⟩ hother
  dsimp only
  cases catalog.get? key with
  | none => rfl
  | some p => exact (get_set store other handle p).trans (if_neg (Ne.symm hother))

theorem rebinds_writeBack (c : Config) (s : Session n) :
    s.Rebinds c (s.writeBack (s.catalog.rebind c)) where
  registry_eq := rfl
  target_eq := by
    intro handle hregistered i hi
    have hget := (get_writeBack c s handle).resolve_right fun hother => hother.2 hregistered
    rw [hget] at hi
    rw [catalog_writeBack, Catalog.outcome_rebind]
    exact Catalog.target_of_mem_rebindPlugin hi
  unbound_eq := by
    intro handle
    have hsame := congrArg (·.store.get handle) (unbound_writeBack c s)
    simpa only [get_unbound] using hsame
  get_eq := fun _ hfree => get_writeBack_of_not_mem s _ hfree

/-- **A run binds the imports of the registered plugins and changes nothing else.**  This holds of
building a graph and of resolving, whether the resolution returns or reports a cycle. -/
theorem rebinds_of_run (c : Config) (s : Session n) :
    s.Rebinds c (s.take c .graph).session ∧ s.Rebinds c (s.take c .resolve).session := by
  have hframe := rebinds_writeBack c s
  refine ⟨?_, ?_⟩
  · simpa only [take, Catalog.catalog_buildGraph] using hframe
  · simpa only [take, Catalog.catalog_resolve] using hframe

/-- Two plugins that import from each other, one of them in vain, and one that has lost its place in
the registry, all with bindings from earlier runs. -/
def troupe : Session 3 where
  store :=
    let stale : Service := ⟨"s", "0.9.0", .service, "service"⟩
    #v[⟨"lead", none, [⟨"s", "1.0.0", .service, "service"⟩],
        [⟨"understudy", "s", "s", .text "*", some stale⟩]⟩,
      ⟨"understudy", none, [⟨"s", "2.0.0", .service, "service"⟩],
        [⟨"lead", "s", "s", .text "^2.0.0", some stale⟩]⟩,
      ⟨"former", none, [], [⟨"lead", "s", "s", .text "*", some stale⟩]⟩]
  registry := .ofList [("lead", 0), ("understudy", 1)]

/-- The resolution reports the cycle, and has bound the imports all the same. -/
example :
    (troupe.take .default .resolve).answer.toOption.isNone ∧
      (troupe.take .default .resolve).session.store.toList.map (·.imports.map fun i =>
        i.target.map (·.version)) = [[some "2.0.0"], [none], [some "0.9.0"]] := by
  decide +kernel

end Session

end PluginOrder
