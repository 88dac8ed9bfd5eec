/-
Counted requests balance.

Requests are counted in all, by endpoint and by class of status, each count kept by itself.  What
is counted under an endpoint is what the requests of that endpoint alone come to, so one more
request adds as much to the whole as to the sum over the endpoints, and by induction on what the
metrics are used for the counts agree with each other (`balances_watch`).  A cycle changes none of
them.

An endpoint keeps its place in the table from its first request on, so two requests are counted in
one place if they go by the same method and route, and only then.  A snapshot is what had been
counted when it was taken, whatever is counted after.
-/
import Mathlib
import VacancyLedger.Proofs.Metrics.Counters

namespace VacancyLedger

/-- The requests of an endpoint. -/
def callsTo {τ : Type} (key : String) (calls : List (Call τ)) : List (Call τ) :=
  calls.filter (·.endpoint == key)

section

variable {τ : Type} (calls : List (Call τ)) (c : Call τ)

theorem callsTo_snoc_self :
    callsTo c.endpoint (calls ++ [c]) = callsTo c.endpoint calls ++ [c] := by
  simp [callsTo]

theorem callsTo_snoc_of_ne {key : String} (h : c.endpoint ≠ key) :
    callsTo key (calls ++ [c]) = callsTo key calls := by
  simp [callsTo, h]

end

namespace Metrics

variable {τ : Type}

/-- What the metrics are used for: to count a request or a cycle, or to show what was counted. -/
inductive Use (τ : Type) where
  | request (c : Call τ)
  | cycle (report : CycleReport)
  | snapshot

/-- The request that is counted, if it is one. -/
def Use.call? : Use τ → Option (Call τ)
  | .request c => some c
  | .cycle _ => none
  | .snapshot => none

/-- The requests among what the metrics were used for. -/
def callsOf (uses : List (Use τ)) : List (Call τ) := uses.filterMap Use.call?

theorem callsOf_snoc (uses : List (Use τ)) (use : Use τ) :
    callsOf (uses ++ [use]) = callsOf uses ++ use.call?.toList := by
  rw [callsOf, List.filterMap_append, ← callsOf]
  cases use <;> rfl

/-- What has been counted, and the snapshots that were taken of it. -/
structure Watch (τ : Type) where
  metrics : Metrics τ
  taken : List (Metrics τ)

variable [Add τ] [OfNat τ 0] [LT τ] [DecidableLT τ]

/-- The metrics after one more request. -/
def call (m : Metrics τ) (c : Call τ) : Metrics τ := m.observe c.method c.route c.status c.time

/-- What comes of one more use. -/
def Watch.next (w : Watch τ) : Use τ → Watch τ
  | .request c => { w with metrics := w.metrics.call c }
  | .cycle report => { w with metrics := w.metrics.observeCycle report }
  | .snapshot => { w with taken := w.taken ++ [w.metrics] }

/-- What has been counted after some uses, from nothing on. -/
def watch (uses : List (Use τ)) : Watch τ := uses.foldl Watch.next ⟨.empty, []⟩

theorem watch_snoc (uses : List (Use τ)) (use : Use τ) :
    watch (uses ++ [use]) = (watch uses).next use := by
  simp [watch]

/-! ### The balance -/

/-- The counters are those of the requests, in all and for each endpoint, and they agree. -/
structure Balances (m : Metrics τ) (calls : List (Call τ)) : Prop where
  total : m.requests = calls.length
  endpoints : m.requests = (m.endpoints.map (·.2.count)).sum
  errors : m.errors = (m.endpoints.map (·.2.errorCount)).sum
  failed : m.errors = calls.countP fun c => isErrorStatus c.status
  nodup : (Table.keys m.endpoints).Nodup
  entry : ∀ key, Table.get? m.endpoints key =
    if callsTo key calls = [] then none else some (Endpoint.ofCalls (callsTo key calls))

variable {m : Metrics τ} {calls : List (Call τ)}

theorem balances_empty : (empty : Metrics τ).Balances [] :=
  ⟨rfl, rfl, rfl, rfl, List.nodup_nil, fun _ => rfl⟩

theorem Balances.getD_endpoints (h : m.Balances calls) (key : String) :
    (Table.get? m.endpoints key).getD .empty = Endpoint.ofCalls (callsTo key calls) := by
  rw [h.entry]
  split
  · rename_i hnone
    rw [hnone]
    rfl
  · rfl

/-- The entry of an endpoint after one more request of it. -/
theorem Balances.endpoints_call (h : m.Balances calls) (c : Call τ) :
    (m.call c).endpoints = Table.insert m.endpoints c.endpoint
      (Endpoint.ofCalls (callsTo c.endpoint (calls ++ [c]))) := by
  rw [callsTo_snoc_self, Endpoint.ofCalls_snoc, ← h.getD_endpoints]
  rfl

/-- One more request adds as much to the sum over the endpoints as to its own endpoint. -/
theorem Balances.sum_call (h : m.Balances calls) (number : Endpoint τ → Nat)
    (hempty : number .empty = 0) (c : Call τ) :
    ((m.call c).endpoints.map fun entry => number entry.2).sum +
        number (Endpoint.ofCalls (callsTo c.endpoint calls)) =
      (m.endpoints.map fun entry => number entry.2).sum +
        number (Endpoint.ofCalls (callsTo c.endpoint calls ++ [c])) := by
  have hsum := Table.sumOf_insert h.nodup (fun _ => number) c.endpoint
    (Endpoint.ofCalls (callsTo c.endpoint (calls ++ [c])))
  have hold : (Table.get? m.endpoints c.endpoint).elim 0 number =
      number (Endpoint.ofCalls (callsTo c.endpoint calls)) := by
    rw [← h.getD_endpoints]
    cases Table.get? m.endpoints c.endpoint with
    | none => exact hempty.symm
    | some e => rfl
  rw [hold, ← h.endpoints_call, callsTo_snoc_self] at hsum
  exact hsum

theorem Balances.call (h : m.Balances calls) (c : Call τ) : (m.call c).Balances (calls ++ [c]) := by
  have hbefore := Endpoint.counts_ofCalls (callsTo c.endpoint calls)
  have hafter := Endpoint.counts_ofCalls (callsTo c.endpoint calls ++ [c])
  have herrors : (m.call c).errors = m.errors + if isErrorStatus c.status then 1 else 0 := by
    rw [Metrics.call, Metrics.observe]
    split <;> rfl
  refine ⟨?_, ?_, ?_, ?_, ?_, fun key => ?_⟩
  · simp [Metrics.call, Metrics.observe, h.total]
  · have hsum := h.sum_call (·.count) rfl c
    rw [hbefore.count, hafter.count, List.length_append, List.length_singleton, ← h.endpoints]
      at hsum
    have hone : (m.call c).requests = m.requests + 1 := rfl
    omega
  · have hsum := h.sum_call (·.errorCount) rfl c
    rw [hbefore.errors, hafter.errors, List.countP_append, List.countP_singleton, ← h.errors]
      at hsum
    omega
  · rw [herrors, h.failed, List.countP_append, List.countP_singleton]
  · rw [h.endpoints_call]
    exact Table.nodup_keys_insert h.nodup _ _
  · rw [h.endpoints_call]
    by_cases hkey : c.endpoint = key
    · have hsome := List.append_ne_nil_of_right_ne_nil (callsTo c.endpoint calls)
        (List.cons_ne_nil c [])
      rw [← hkey, Table.get?_insert_self, callsTo_snoc_self, if_neg hsome]
    · rw [Table.get?_insert_of_ne (Ne.symm hkey), callsTo_snoc_of_ne calls c hkey, h.entry]

/-- However the metrics are used, they balance. -/
theorem balances_watch (uses : List (Use τ)) : (watch uses).metrics.Balances (callsOf uses) := by
  induction uses using List.reverseRecOn with
  | nil => exact balances_empty
  | append_singleton uses use ih =>
      rw [watch_snoc, callsOf_snoc]
      cases use with
      | request c => exact ih.call c
      | cycle report =>
          rw [Use.call?, Option.toList_none, List.append_nil]
          exact ⟨ih.total, ih.endpoints, ih.errors, ih.failed, ih.nodup, ih.entry⟩
      | snapshot =>
          rw [Use.call?, Option.toList_none, List.append_nil]
          exact ih

/-- What stands under a key is what the requests of the key come to. -/
theorem Balances.eq_ofCalls (h : m.Balances calls) {entry : String × Endpoint τ}
    (hentry : entry ∈ m.endpoints) : entry.2 = Endpoint.ofCalls (callsTo entry.1 calls) := by
  have hget := (Table.get?_eq_some_iff h.nodup).mpr hentry
  rw [← h.getD_endpoints, hget, Option.getD_some]

/-! ### Places -/

/-- Whether counting a request changes what stands at a place. -/
def Writes (m : Metrics τ) (c : Call τ) (i : Nat) : Prop :=
  (m.call c).endpoints[i]? ≠ m.endpoints[i]?

theorem writes_iff (h : (Table.keys m.endpoints).Nodup) (c : Call τ) (i : Nat) :
    m.Writes c i ↔ i = (Table.keys (m.call c).endpoints).idxOf c.endpoint := by
  refine Table.getElem?_insert_ne_iff h (fun hsame => ?_) i
  have hcount := congrArg (fun e : Option (Endpoint τ) => (e.getD .empty).count) hsame
  exact absurd hcount (Nat.lt_succ_self _).ne

/-- An endpoint keeps its place. -/
theorem idxOf_foldl_next {key : String} (uses : List (Use τ)) :
    ∀ w : Watch τ, key ∈ Table.keys w.metrics.endpoints →
      key ∈ Table.keys (uses.foldl Watch.next w).metrics.endpoints ∧
        (Table.keys (uses.foldl Watch.next w).metrics.endpoints).idxOf key =
          (Table.keys w.metrics.endpoints).idxOf key := by
  induction uses with
  | nil => exact fun w h => ⟨h, rfl⟩
  | cons use uses ih =>
      intro w h
      rw [List.foldl_cons]
      cases use with
      | request c =>
          obtain ⟨hin, hplace⟩ :=
            ih (w.next (.request c)) ((Table.mem_keys_insert _ _ _).mpr (.inl h))
          exact ⟨hin, hplace.trans (Table.idxOf_keys_insert h _ _)⟩
      | cycle report => exact ih (w.next (.cycle report)) h
      | snapshot => exact ih (w.next .snapshot) h

/-- Two requests are counted in one place exactly if their endpoints go by the same key. -/
theorem writes_same_iff (uses between : List (Use τ)) (c c' : Call τ) :
    (∃ i, (watch uses).metrics.Writes c i ∧
        (watch (uses ++ .request c :: between)).metrics.Writes c' i) ↔
      c.endpoint = c'.endpoint := by
  have hfirst : c.endpoint ∈ Table.keys ((watch uses).metrics.call c).endpoints :=
    (Table.mem_keys_insert _ _ _).mpr (.inr rfl)
  have hlater : watch (uses ++ .request c :: between) =
      between.foldl Watch.next ((watch uses).next (.request c)) := by
    simp [watch]
  obtain ⟨hin, hplace⟩ := idxOf_foldl_next between ((watch uses).next (.request c)) hfirst
  rw [← hlater] at hin hplace
  have hkept := Table.idxOf_keys_insert hin c'.endpoint
    (((Table.get? (watch (uses ++ .request c :: between)).metrics.endpoints c'.endpoint).getD
      .empty).observe c'.status c'.time)
  have hwrites := writes_iff (balances_watch uses).nodup c
  have hwrites' := writes_iff (balances_watch (uses ++ .request c :: between)).nodup c'
  simp only [hwrites, hwrites', exists_eq_left]
  rw [show (Table.keys ((watch uses).metrics.call c).endpoints).idxOf c.endpoint = _ from
    (hkept.trans hplace).symm]
  exact List.idxOf_inj ((Table.mem_keys_insert _ _ _).mpr (.inl hin))

/-! ### Snapshots -/

theorem taken_foldl_next (uses : List (Use τ)) :
    ∀ w : Watch τ, w.taken <+: (uses.foldl Watch.next w).taken := by
  induction uses with
  | nil => exact fun w => List.prefix_rfl
  | cons use uses ih =>
      intro w
      refine List.IsPrefix.trans ?_ (ih (w.next use))
      cases use with
      | request c => exact List.prefix_rfl
      | cycle report => exact List.prefix_rfl
      | snapshot => exact List.prefix_append _ _

/-- A snapshot stays what had been counted when it was taken. -/
theorem taken_snapshot (uses later : List (Use τ)) :
    (watch (uses ++ .snapshot :: later)).taken[(watch uses).taken.length]? =
      some (watch uses).metrics := by
  have hlater : watch (uses ++ .snapshot :: later) =
      later.foldl Watch.next ((watch uses).next .snapshot) := by
    simp [watch]
  obtain ⟨rest, hrest⟩ := taken_foldl_next later ((watch uses).next .snapshot)
  rw [hlater, ← hrest]
  simp [Watch.next]

/-! ### Requests of all kinds -/

/-- The counts of the requests balance at every time, two requests share an entry exactly if their
method and route make the same key, and snapshots stay as they were taken.  With exact times, the
whole time of an endpoint lies between its longest one and as many times that one as there were
requests, when no time is negative.  In what is shown of an endpoint no counter hides another. -/
theorem requests_balance {σ : Type} [AddCommMonoid σ] [LinearOrder σ] [IsOrderedAddMonoid σ]
    (uses between later : List (Use τ)) (c c' : Call τ) (exactUses : List (Use σ))
    (shownUses : List (Use Float)) :
    (watch uses).metrics.Balances (callsOf uses) ∧
    (∀ entry ∈ (watch uses).metrics.endpoints,
      entry.2.Counts (callsTo entry.1 (callsOf uses))) ∧
    ((∃ i, (watch uses).metrics.Writes c i ∧
        (watch (uses ++ .request c :: between)).metrics.Writes c' i) ↔
      c.endpoint = c'.endpoint) ∧
    (watch (uses ++ .snapshot :: later)).taken[(watch uses).taken.length]? =
      some (watch uses).metrics ∧
    (∀ entry ∈ (watch exactUses).metrics.endpoints,
      entry.2.Times (callsTo entry.1 (callsOf exactUses))) ∧
    ∀ entry ∈ (watch shownUses).metrics.endpoints,
      ∃ members, entry.2.toJson = .object members ∧ (members.map (·.1)).Nodup := by
  refine ⟨balances_watch uses, fun entry hentry => ?_, writes_same_iff uses between c c',
    taken_snapshot uses later, fun entry hentry => ?_, fun entry hentry => ?_⟩
  · rw [(balances_watch uses).eq_ofCalls hentry]
    exact Endpoint.counts_ofCalls _
  · rw [(balances_watch exactUses).eq_ofCalls hentry]
    exact Endpoint.times_ofCalls _
  · rw [(balances_watch shownUses).eq_ofCalls hentry]
    exact (Endpoint.counts_ofCalls _).toJson_nodup

/-- Two requests of one endpoint and one of another, with a snapshot between them. -/
def someUses : List (Use ℚ) :=
  [.request ⟨"GET", "/postings", 200, 3⟩, .request ⟨"GET", "/postings", 404, 2⟩, .snapshot,
    .request ⟨"POST", "/ingest", 1099, 1⟩]

theorem requests_balance_rational :
    (watch someUses).metrics.requests = 3 ∧ (watch someUses).metrics.errors = 2 ∧
    ∀ entry ∈ (watch someUses).metrics.endpoints,
      entry.2.longestTime ≤ entry.2.totalTime ∧
        entry.2.totalTime ≤ entry.2.count • entry.2.longestTime := by
  obtain ⟨hbalance, -, -, -, htimes, -⟩ :=
    requests_balance someUses [] [] ⟨"GET", "/", 200, 1⟩ ⟨"GET", "/", 200, 1⟩ someUses []
  refine ⟨hbalance.total, hbalance.failed, fun entry hentry => ?_⟩
  refine (htimes entry hentry).bounds fun c hc => ?_
  have hcalls : ∀ c ∈ callsOf someUses, 0 ≤ c.time := by
    simp only [callsOf, someUses, Use.call?, List.filterMap_cons, List.filterMap_nil,
      List.forall_mem_cons]
    decide
  exact hcalls c (List.mem_of_mem_filter hc)

end Metrics

end VacancyLedger
