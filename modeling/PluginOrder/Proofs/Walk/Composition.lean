import PluginOrder.Proofs.Walk.Part

/-!
# Sorting a graph that has parts

A sort visits the nodes in the order of the graph, so a graph that is put together from parts is
sorted part by part.

A part whose nodes come first halts the sort of the graph as it halts its own (`Part.sort_error`).
If it does not, and no edge leads to it from outside, then the rest of the sort leaves alone what
was written down of the part (`Part.alike_of_sort`).  And where no edge leads from one part to the
other, the graph is sorted as one part after the other (`Split.sort_ok`).
-/

namespace PluginOrder

namespace Ending

theorem ofResult_ne_tooDeep (result : Except Halt Walk) : ofResult result ≠ .tooDeep := by
  cases result <;> simp [ofResult]

theorem eq_error_of_ofResult {result : Except Halt Walk} {fault : WalkFault} {t : Tour}
    (h : ofResult result = .halted fault t) :
    ∃ halt, result = .error halt ∧ halt.fault = fault := by
  cases result with
  | ok w => cases h
  | error halt => exact ⟨halt, rfl, (Ending.halted.inj h).1⟩

/-- A graph is sorted with the same fault as its part. -/
theorem Fits.error {part g : Graph} {result₁ result : Except Halt Walk} {halt : Halt}
    (h : (ofResult result₁).Fits part g (ofResult result)) (herror : result₁ = .error halt) :
    ∃ halt', result = .error halt' ∧ halt'.fault = halt.fault := by
  subst herror
  cases result with
  | ok w =>
      obtain ⟨t₁, heq, _⟩ := h
      cases heq
  | error halt' =>
      obtain ⟨t₁, heq⟩ := h
      exact ⟨halt', rfl, (Ending.halted.inj heq).1.symm⟩

/-- A graph is sorted if its part is. -/
theorem Fits.ok {part g : Graph} {result₁ result : Except Halt Walk} {w₁ : Walk}
    (h : (ofResult result₁).Fits part g (ofResult result)) (hok : result₁ = .ok w₁) :
    ∃ w, result = .ok w ∧ Tour.Inside part g w₁.tour w.tour := by
  subst hok
  cases result with
  | ok w =>
      obtain ⟨t₁, heq, hinside⟩ := h
      cases heq
      exact ⟨w, rfl, hinside⟩
  | error halt =>
      obtain ⟨t₁, heq⟩ := h
      cases heq

end Ending

/-! ## A part whose nodes come first -/

namespace Graph

variable {part first second g : Graph} {rest : List String} {depth : Nat} {w₁ w₂ w : Walk}
  {halt : Halt}

theorem visitAll_start (hdepth : g.size < depth) :
    Tour.visitAll depth g.keys (.start g) = .ofResult g.sort :=
  Tour.visitAll_eq_ofResult (Nat.lt_of_le_of_lt g.unmarked_le_size hdepth)

theorem ofResult_sort (hkeys : g.keys = part.keys ++ rest) :
    Ending.ofResult g.sort =
      (Tour.visitAll (g.size + 1) part.keys (.start g)).andThen
        (Tour.visitAll (g.size + 1) rest) := by
  rw [← visitAll_start (Nat.lt_succ_self _), hkeys, Tour.visitAll_append]

theorem size_eq_of_keys (hkeys : g.keys = part.keys ++ rest) :
    g.size = part.size + rest.length := by
  have hlength := congrArg List.length hkeys
  simpa [Ledger.keys, Ledger.size] using hlength

theorem not_mem_of_mem_rest (hkeys : g.keys = part.keys ++ rest) :
    ∀ key ∈ rest, key ∉ part.keys := by
  have hnodup : (part.keys ++ rest).Nodup := hkeys ▸ g.nodup_keys
  exact fun key hrest hpart => (List.nodup_append.mp hnodup).2.2 key hpart key hrest rfl

namespace Part

variable (hpart : part.Part g) (hg : g.Untouched) (hkeys : g.keys = part.keys ++ rest)

include hpart hg in
theorem fits_visitAll (hdepth : part.size < depth) :
    (Ending.ofResult part.sort).Fits part g (Tour.visitAll depth part.keys (.start g)) := by
  rw [← visitAll_start hdepth]
  refine Tour.visitAll_inside hg hpart ?_ fun _ hkey => hkey
  exact Tour.inside_start hpart (fun _ _ => not_false) (.refl g) (.refl (fun _ => False) _)
    fun _ hnode => hg.visiting_eq hnode

include hpart hg hkeys

/-- **A part whose nodes come first halts the sort of the graph as it halts its own.** -/
theorem sort_error (h : part.sort = .error halt) :
    ∃ halt', g.sort = .error halt' ∧ halt'.fault = halt.fault := by
  have hsize := size_eq_of_keys hkeys
  -- no way through the part is longer than the part, so the depth is enough
  have hdepth : part.size < g.size + 1 := by omega
  have hfits := hpart.fits_visitAll hg hdepth
  have hsort := ofResult_sort hkeys
  rw [h] at hfits
  cases hfirst : Tour.visitAll (g.size + 1) part.keys (.start g) with
  | done t =>
      rw [hfirst] at hfits
      obtain ⟨_, heq, _⟩ := hfits
      cases heq
  | halted fault t =>
      rw [hfirst] at hfits hsort
      obtain ⟨_, heq⟩ := hfits
      obtain ⟨halt', hhalt, hfault⟩ := Ending.eq_error_of_ofResult hsort
      exact ⟨halt', hhalt, hfault.trans (Ending.halted.inj heq).1.symm⟩
  | tooDeep =>
      rw [hfirst] at hsort
      exact absurd hsort (Ending.ofResult_ne_tooDeep _)

/-- A part whose nodes come first is sorted as it is on its own, and then come the other nodes. -/
theorem sort_ok (h : part.sort = .ok w₁) :
    ∃ t, Tour.visitAll (g.size + 1) part.keys (.start g) = .done t ∧
      Tour.Inside part g w₁.tour t ∧
        .ofResult g.sort = Tour.visitAll (g.size + 1) rest t := by
  have hsize := size_eq_of_keys hkeys
  have hdepth : part.size < g.size + 1 := by omega
  have hfits := hpart.fits_visitAll hg hdepth
  have hsort := ofResult_sort hkeys
  rw [h] at hfits
  cases hfirst : Tour.visitAll (g.size + 1) part.keys (.start g) with
  | done t =>
      rw [hfirst] at hfits hsort
      obtain ⟨_, heq, hinside⟩ := hfits
      cases heq
      exact ⟨t, rfl, hinside, hsort⟩
  | halted fault t =>
      rw [hfirst] at hfits
      obtain ⟨_, heq⟩ := hfits
      cases heq
  | tooDeep =>
      rw [hfirst] at hsort
      exact absurd hsort (Ending.ofResult_ne_tooDeep _)

/-- **What is written down of a part** is what its own sort writes down, if its nodes come first and
no edge leads to it from outside. -/
theorem alike_of_sort (hclosed : g.Closed (· ∉ part.keys)) (h₁ : part.sort = .ok w₁)
    (h : g.sort = .ok w) :
    w.finished.filter (· ∈ part.keys) = w₁.finished ∧
      ∀ key ∈ part.keys, w.rejects.get? key = w₁.rejects.get? key := by
  obtain ⟨t, _, hinside, hrest⟩ := hpart.sort_ok hg hkeys h₁
  rw [h] at hrest
  have hchanges := Tour.visitAll_changesOnly hg hclosed hinside.shape
    (not_mem_of_mem_rest hkeys) hrest.symm
  refine ⟨hchanges.filter_order.trans hinside.order_eq, fun key hkey => ?_⟩
  exact (hchanges.rejects_eq (not_not.mpr hkey)).trans (hinside.rejects_eq key hkey)

end Part

/-! ## Two parts without edges between them -/

/-- A graph is made of two parts, the nodes of the one before those of the other, and no edge leads
from either to the other. -/
structure Split (first second g : Graph) : Prop where
  keys_eq : g.keys = first.keys ++ second.keys
  fst : first.Part g
  snd : second.Part g
  closed_fst : g.Closed (· ∈ first.keys)
  closed_snd : g.Closed (· ∈ second.keys)

namespace Split

variable (hsplit : Split first second g) (hg : g.Untouched)

include hsplit hg

/-- After the first part, the second one is sorted as it is on its own. -/
theorem fits_snd (h₁ : first.sort = .ok w₁) :
    ∃ t, Tour.ChangesOnly (· ∈ first.keys) (.start g) t ∧ Tour.Inside first g w₁.tour t ∧
      .ofResult g.sort = Tour.visitAll (g.size + 1) second.keys t ∧
        (Ending.ofResult second.sort).Fits second g (.ofResult g.sort) := by
  obtain ⟨t, hvisit, hinside, hrest⟩ := hsplit.fst.sort_ok hg hsplit.keys_eq h₁
  have hchanges : Tour.ChangesOnly (· ∈ first.keys) (.start g) t :=
    Tour.visitAll_changesOnly hg hsplit.closed_fst (.refl g) (fun _ hkey => hkey) hvisit
  refine ⟨t, hchanges, hinside, hrest, ?_⟩
  have hsize : second.size < g.size + 1 := by
    have hsum := size_eq_of_keys hsplit.keys_eq
    have hlength : second.keys.length = second.size := List.length_map _
    omega
  rw [hrest, ← visitAll_start hsize]
  refine Tour.visitAll_inside hg hsplit.snd ?_ fun _ hkey => hkey
  refine Tour.inside_start hsplit.snd (not_mem_of_mem_rest hsplit.keys_eq) hinside.shape hchanges ?_
  -- no edge leads out of the second part
  rintro key node ⟨hout, provider, hprovider, hfeeds⟩ _
  exact absurd (hsplit.closed_snd hprovider hfeeds) hout

theorem sort_error_snd (h₁ : first.sort = .ok w₁) (h₂ : second.sort = .error halt) :
    ∃ halt', g.sort = .error halt' ∧ halt'.fault = halt.fault := by
  obtain ⟨_, _, _, _, hfits⟩ := hsplit.fits_snd hg h₁
  exact hfits.error h₂

/-- **A graph of two parts is sorted as one part after the other.**  The order of the second part
comes in front, since a walk writes what it leaves later in front of what it left before. -/
theorem sort_ok (h₁ : first.sort = .ok w₁) (h₂ : second.sort = .ok w₂) :
    ∃ w, g.sort = .ok w ∧ w.finished = w₂.finished ++ w₁.finished ∧
      (∀ key ∈ first.keys, w.rejects.get? key = w₁.rejects.get? key) ∧
        ∀ key ∈ second.keys, w.rejects.get? key = w₂.rejects.get? key := by
  obtain ⟨t, hchanges, hinside, hrest, hfits⟩ := hsplit.fits_snd hg h₁
  obtain ⟨w, hsort, hinside₂⟩ := hfits.ok h₂
  rw [hsort] at hrest
  have hchanges₂ : Tour.ChangesOnly (· ∈ second.keys) t w.tour :=
    Tour.visitAll_changesOnly hg hsplit.closed_snd hinside.shape (fun _ hkey => hkey) hrest.symm
  have hout := not_mem_of_mem_rest hsplit.keys_eq
  -- each part of the order belongs to one part of the graph, so filtering tells the two apart
  obtain ⟨new, hnew, hmem⟩ := hchanges.order_eq
  obtain ⟨new₂, hnew₂, hmem₂⟩ := hchanges₂.order_eq
  have hstart : t.order = new := by simpa [Tour.start] using hnew
  have horder : t.order = w₁.finished := by
    have hall : t.order.filter (· ∈ first.keys) = t.order := by
      rw [hstart, List.filter_eq_self]
      exact fun id hid => by simpa using hmem id hid
    rw [← hall]
    exact hinside.order_eq
  have horder₂ : new₂ = w₂.finished := by
    have hall : new₂.filter (· ∈ second.keys) = new₂ := by
      rw [List.filter_eq_self]
      exact fun id hid => by simpa using hmem₂ id hid
    have hnone : t.order.filter (· ∈ second.keys) = [] := by
      rw [hstart, List.filter_eq_nil_iff]
      exact fun id hid => by simpa using fun hkey => hout id hkey (hmem id hid)
    have hfilter := hinside₂.order_eq
    rw [hnew₂, List.filter_append, hall, hnone, List.append_nil] at hfilter
    exact hfilter
  refine ⟨w, hsort, ?_, fun key hkey => ?_, hinside₂.rejects_eq⟩
  · rw [← horder, ← horder₂]
    exact hnew₂
  · have hunchanged := hchanges₂.rejects_eq fun hkey₂ => hout key hkey₂ hkey
    exact hunchanged.trans (hinside.rejects_eq key hkey)

end Split

end Graph

end PluginOrder
