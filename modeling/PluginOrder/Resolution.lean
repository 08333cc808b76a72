import PluginOrder.Graph.Build
import PluginOrder.Graph.Walk
import PluginOrder.Plugin.Error

/-!
# Resolving a catalogue

A resolution builds the graph of a catalogue, sorts it, and keeps of the sorted graph what the
catalogue knows: the plugins that can be installed, providers before those that depend on them, and
the rejected plugins in the order of the catalogue.  Identifiers that are only asked for are dropped
here.

A cycle aborts the whole resolution.  The imports are bound all the same.

In the end the rejects are reported, each with its reason in words.  A range may have been replaced
by a value that has no text, and then the reason cannot be told: the resolution breaks off there,
after everything has been decided and bound, and the caller is not given what was decided.
-/

namespace PluginOrder

/-- A plugin that cannot be installed. -/
structure Reject where
  key : String
  reason : Rejection
  plugin : Plugin

/-- What a resolution decides. -/
structure Resolution where
  /-- The plugins that can be installed, under their keys, in the order of their start. -/
  accepted : List (String × Plugin)
  /-- The plugins that cannot, in the order of the catalogue. -/
  rejects : List Reject

namespace Resolution

/-- The identifiers of the accepted plugins. -/
def order (r : Resolution) : List String := r.accepted.map (·.2.identifier)

/-- The keys of the rejected plugins. -/
def rejected (r : Resolution) : List String := r.rejects.map (·.key)

end Resolution

namespace Reject

/-- The document value of a reject. -/
def toValue (r : Reject) : Value :=
  .object [("pluginId", .text r.key), ("status", .text r.reason.status.code),
    ("validationError", r.reason.toValue)]

/-- What is reported on a reject, if its reason can be told. -/
def event? (r : Reject) : Option Event :=
  r.reason.format?.map (.pluginRejected r.key r.reason.status ·)

end Reject

namespace Resolution

/-- The first reject whose reason cannot be told. -/
def untold? (r : Resolution) : Option Reject := r.rejects.find? (·.event?.isNone)

/-- What is reported on the rejects, one after the other, until a reason cannot be told. -/
def told (r : Resolution) : List Event :=
  (r.rejects.takeWhile (·.event?.isSome)).filterMap Reject.event?

/-- What is reported in the end.  Once all rejects are told of, the resolution is complete. -/
def closing (r : Resolution) : List Event :=
  match r.untold? with
  | some _ => r.told
  | none => r.told ++ [.resolutionCompleted r.order r.rejected]

end Resolution

/-- Why a caller is given no resolution. -/
inductive ResolutionFault where
  /-- The graph cannot be sorted. -/
  | walk (fault : WalkFault)
  /-- The reason of a reject cannot be told. -/
  | untold (reject : Reject)

/-- The trace of a resolution. -/
structure Span where
  name : String
  /-- The attributes, in the order in which they were set. -/
  attributes : List (String × Value)
  /-- The description of the failure, if there was a cycle. -/
  failure : Option String

/-- Everything that a resolution leaves behind. -/
structure Run where
  /-- What is decided, whether or not all of it can be told. -/
  result : Except WalkFault Resolution
  /-- The catalogue with every import bound anew. -/
  catalog : Catalog
  journal : List Event
  span : Span

/-- What the caller is given: the decision, unless a reject in it cannot be told of. -/
def Run.answer (run : Run) : Except ResolutionFault Resolution :=
  match run.result with
  | .error fault => .error (.walk fault)
  | .ok r =>
    match r.untold? with
    | some reject => .error (.untold reject)
    | none => .ok r

namespace Catalog

/-- The plugins of an order that are in the catalogue and not rejected, each once. -/
def accept (catalog : Catalog) (rejects : Ledger Rejection) (taken : List String) :
    List String → List (String × Plugin)
  | [] => []
  | id :: rest =>
    if rejects.contains id || taken.contains id then accept catalog rejects taken rest
    else
      match catalog.get? id with
      | none => accept catalog rejects taken rest
      | some p => (id, p) :: accept catalog rejects (id :: taken) rest

/-- What of a sorted graph concerns the catalogue. -/
def collect (catalog : Catalog) (w : Walk) : Resolution where
  accepted := catalog.accept w.rejects [] w.finished
  rejects := catalog.entries.filterMap fun (key, p) =>
    (w.rejects.get? key).map fun reason => ⟨key, reason, p⟩

/-- Resolves a catalogue. -/
def resolve (c : Config) (catalog : Catalog) : Run :=
  let built := catalog.buildGraph c
  let size := catalog.size
  let opening := .resolutionStarted size :: built.journal
  match built.graph.sort with
  | .error halt =>
    { result := .error halt.fault
      catalog := built.catalog
      journal := opening ++ halt.walk.journal
      span :=
        { name := "tessera.resolve"
          attributes := ("tessera.plugin_count", .nat size) ::
            match halt.fault with
            | .cycle ids => [("tessera.cycle", .texts ids)]
            | _ => []
          failure := match halt.fault with
            | .cycle ids => some (PluginError.message (.cycle ids))
            | _ => none } }
  | .ok w =>
    let r := built.catalog.collect w
    { result := .ok r
      catalog := built.catalog
      journal := opening ++ w.journal ++ r.closing
      span :=
        { name := "tessera.resolve"
          attributes := [("tessera.plugin_count", .nat size),
            ("tessera.node_count", .nat built.graph.size),
            ("tessera.accepted_count", .nat r.accepted.length),
            ("tessera.rejected_count", .nat r.rejects.length)]
          failure := none } }

end Catalog

end PluginOrder
