/-
The counters of an endpoint.

An endpoint counts its requests in all and by class of status.  One more request adds one to the
count and to one class, so the classes always make up the count, and those from 4xx on the
requests that ended in an error.  A class is told by the number in its name, which is never the
name of another field that is shown of an endpoint.

With exact times the whole time lies between the longest one and as many times the longest one as
there were requests.
-/
import Mathlib
import VacancyLedger.Number.Digits
import VacancyLedger.Proofs.Table
import VacancyLedger.Service.Body

namespace VacancyLedger

/-! ### Numbers in tables -/

namespace Table

variable {κ α : Type} [BEq κ] [LawfulBEq κ] {t : Table κ α} {key : κ}

theorem insert_cons_self (h : key ∉ keys t) (old value : α) :
    insert ((key, old) :: t) key value = (key, value) :: t := by
  rw [insert, if_pos (by simp), List.map_cons]
  refine congrArg₂ List.cons (if_pos (beq_self_eq_true key)) ?_
  refine (List.map_congr_left fun entry hentry => ?_).trans (List.map_id t)
  have hne : entry.1 ≠ key := fun heq => h (mem_keys.mpr ⟨entry.2, heq ▸ hentry⟩)
  simp [hne]

theorem insert_cons_of_ne {other : κ} (h : other ≠ key) (old value : α) :
    insert ((other, old) :: t) key value = (other, old) :: insert t key value := by
  have hbeq : (other == key) = false := by simpa using h
  simp only [insert, List.any_cons, hbeq, Bool.false_or]
  split
  · simp [hbeq]
  · rfl

/-- Putting a new value under a key changes the one place where the key stands then. -/
theorem getElem?_insert_ne_iff {value : α} (h : (keys t).Nodup) (hnew : get? t key ≠ some value)
    (i : Nat) :
    (insert t key value)[i]? ≠ t[i]? ↔ i = (keys (insert t key value)).idxOf key := by
  induction t generalizing i with
  | nil => cases i <;> simp [insert, keys]
  | cons entry rest ih =>
      obtain ⟨k, v⟩ := entry
      obtain ⟨hout, hrest⟩ := List.nodup_cons.mp h
      by_cases hk : k = key
      · subst hk
        rw [get?_cons_self] at hnew
        have hne : value ≠ v := fun heq => hnew (by rw [heq])
        rw [insert_cons_self hout]
        cases i <;> simp [keys, hne]
      · rw [get?_cons_of_ne (Ne.symm hk)] at hnew
        rw [insert_cons_of_ne hk]
        cases i with
        | zero => simp [keys, hk, List.idxOf_cons_ne]
        | succ i =>
            have hlater := ih hrest hnew i
            rw [keys] at hlater
            simp only [List.getElem?_cons_succ, hlater, keys, List.map_cons,
              List.idxOf_cons_ne _ hk, Nat.succ_inj]

/-- A key that stands in a table keeps its place. -/
theorem idxOf_keys_insert {other : κ} (h : other ∈ keys t) (key : κ) (value : α) :
    (keys (insert t key value)).idxOf other = (keys t).idxOf other := by
  rw [keys_insert]
  split
  · rfl
  · exact List.idxOf_append_of_mem h

theorem mem_keys_insert (t : Table κ α) (key : κ) (value : α) {other : κ} :
    other ∈ keys (insert t key value) ↔ other ∈ keys t ∨ other = key := by
  rw [keys_insert]
  split
  · rename_i hany
    rw [any_key_iff] at hany
    exact ⟨.inl, fun h => h.elim id fun heq => heq ▸ hany⟩
  · rw [List.mem_append, List.mem_singleton]

/-- The sum of a number that each entry of a table has. -/
def sumOf (number : κ → α → Nat) (t : Table κ α) : Nat :=
  (t.map fun entry => number entry.1 entry.2).sum

omit [BEq κ] [LawfulBEq κ] in
theorem sumOf_cons (number : κ → α → Nat) (key : κ) (value : α) (t : Table κ α) :
    sumOf number ((key, value) :: t) = number key value + sumOf number t := by
  simp [sumOf]

/-- Putting a value under a key puts its number in the place of that of the old value. -/
theorem sumOf_insert (h : (keys t).Nodup) (number : κ → α → Nat) (key : κ) (value : α) :
    sumOf number (insert t key value) + (get? t key).elim 0 (number key) =
      sumOf number t + number key value := by
  induction t with
  | nil => simp [insert, sumOf, get?_nil]
  | cons entry rest ih =>
      obtain ⟨k, v⟩ := entry
      obtain ⟨hout, hrest⟩ := List.nodup_cons.mp h
      by_cases hk : k = key
      · subst hk
        have hput : insert ((k, v) :: rest) k value = (k, value) :: rest :=
          insert_cons_self hout v value
        have hold := get?_cons_self k v rest
        rw [hput, hold, sumOf_cons, sumOf_cons, Option.elim_some]
        omega
      · have hlater := ih hrest
        rw [insert_cons_of_ne hk, get?_cons_of_ne (Ne.symm hk), sumOf_cons, sumOf_cons]
        omega

end Table

/-! ### Classes of status -/

/-- The number in the name of a class. -/
def classNumber (name : String) : Int :=
  let number := name.toList.takeWhile (· != 'x')
  if number.head? = some '-' then -Int.ofNat (Number.ofDigits (number.drop 1))
  else Int.ofNat (Number.ofDigits number)

theorem isPlain_toDigits (n : Nat) : ∀ c ∈ Nat.toDigits 10 n, c ≠ 'x' ∧ c ≠ '-' := by
  intro c hc
  have hdigit := Nat.isDigit_of_mem_toDigits (by decide) (by decide) hc
  constructor
  · rintro rfl
    cases hdigit
  · rintro rfl
    cases hdigit

theorem takeWhile_name {number : List Char} (h : ∀ c ∈ number, c ≠ 'x') :
    (number ++ "xx".toList).takeWhile (· != 'x') = number := by
  rw [List.takeWhile_append_of_pos fun c hc => by simpa using h c hc]
  simp

theorem toList_statusClass (status : Int) :
    (statusClass status).toList = (toString (status.fdiv 100)).toList ++ "xx".toList :=
  String.toList_append

/-- A class is told by its name. -/
theorem classNumber_statusClass (status : Int) :
    classNumber (statusClass status) = status.fdiv 100 := by
  rw [classNumber, toList_statusClass]
  generalize status.fdiv 100 = n
  cases n with
  | ofNat n =>
      have hdigits : (toString (Int.ofNat n)).toList = Nat.toDigits 10 n := Nat.toList_repr
      have hsign : (Nat.toDigits 10 n).head? ≠ some '-' := fun hhead =>
        (isPlain_toDigits n _ (List.mem_of_mem_head? hhead)).2 rfl
      rw [hdigits, takeWhile_name fun c hc => (isPlain_toDigits n c hc).1]
      simp only [if_neg hsign, Number.ofDigits_toDigits]
  | negSucc n =>
      have hdigits : (toString (Int.negSucc n)).toList = '-' :: Nat.toDigits 10 (n + 1) := by
        rw [← Nat.toList_repr]
        exact String.toList_append
      have hname : ∀ c ∈ '-' :: Nat.toDigits 10 (n + 1), c ≠ 'x' :=
        List.forall_mem_cons.mpr ⟨by decide, fun c hc => (isPlain_toDigits (n + 1) c hc).1⟩
      rw [hdigits, takeWhile_name hname]
      simp only [List.head?_cons, if_true, List.drop_one, List.tail_cons, Number.ofDigits_toDigits]
      rfl

theorem isErrorStatus_iff (status : Int) :
    isErrorStatus status = true ↔ 4 ≤ classNumber (statusClass status) := by
  rw [classNumber_statusClass, isErrorStatus, decide_eq_true_eq,
    Int.fdiv_eq_ediv_of_nonneg _ (by decide)]
  omega

/-- The fields that are shown of an endpoint before its classes. -/
def Endpoint.fixedFields : List String := ["count", "latency_ms_total", "latency_ms_max"]

/-- An endpoint is shown as an object of its fixed fields and its classes. -/
theorem Endpoint.toJson_fields (e : Endpoint Float) :
    ∃ members, e.toJson = .object members ∧
      members.map (·.1) = fixedFields ++ Table.keys e.classes := by
  refine ⟨_, rfl, ?_⟩
  rw [List.map_append, List.map_map]
  rfl

/-- No class is taken for another field. -/
theorem statusClass_not_mem_fixedFields (status : Int) :
    statusClass status ∉ Endpoint.fixedFields := by
  have hother : ∀ name ∈ Endpoint.fixedFields, ¬"xx".toList <:+ name.toList := by decide
  intro hin
  refine hother _ hin ?_
  rw [toList_statusClass]
  exact List.suffix_append _ _

/-! ### Counters -/

namespace Table

variable {t : Table String Nat}

/-- The numbers under the keys of a kind. -/
def totalWhere (p : String → Bool) (t : Table String Nat) : Nat :=
  ((t.filter (p ·.1)).map (·.2)).sum

theorem totalWhere_true (t : Table String Nat) :
    totalWhere (fun _ => true) t = (t.map (·.2)).sum := by
  rw [totalWhere, List.filter_true]

theorem totalWhere_eq (p : String → Bool) (t : Table String Nat) :
    totalWhere p t = sumOf (fun key n => if p key then n else 0) t := by
  induction t with
  | nil => rfl
  | cons entry t ih =>
      rw [totalWhere] at ih ⊢
      rw [sumOf_cons, ← ih]
      by_cases hp : p entry.1 = true
      · simp [hp]
      · simp [hp]

theorem totalWhere_increment (h : (keys t).Nodup) (p : String → Bool) (key : String) :
    totalWhere p (increment t key) = totalWhere p t + if p key then 1 else 0 := by
  have hsum := sumOf_insert h (fun key n => if p key then n else 0) key ((get? t key).getD 0 + 1)
  have hold : ((get? t key).elim 0 fun n => if p key then n else 0) =
      if p key then (get? t key).getD 0 else 0 := by
    cases get? t key with
    | none => simp
    | some n => rfl
  rw [hold] at hsum
  rw [totalWhere_eq, totalWhere_eq, increment]
  by_cases hp : p key = true
  · simp only [hp, if_true] at hsum ⊢
    omega
  · simp only [hp] at hsum ⊢
    exact hsum

theorem get?_increment (t : Table String Nat) (key name : String) :
    (get? (increment t key) name).getD 0 =
      (get? t name).getD 0 + if key = name then 1 else 0 := by
  rw [increment]
  split
  · rename_i hsame
    rw [hsame, get?_insert_self]
    rfl
  · rename_i hother
    rw [get?_insert_of_ne (Ne.symm hother)]
    rfl

end Table

/-! ### Requests -/

/-- A request that is counted. -/
structure Call (τ : Type) where
  method : String
  route : String
  status : Int
  time : τ

/-- What the endpoint of a request goes by. -/
def Call.endpoint {τ : Type} (c : Call τ) : String := c.method ++ " " ++ c.route

namespace Endpoint

variable {τ : Type}

/-- How many requests had a status of the classes from 4xx on. -/
def errorCount (e : Endpoint τ) : Nat :=
  Table.totalWhere (4 ≤ classNumber ·) e.classes

/-- The counters of an endpoint are those of its requests, and its classes make up its count. -/
structure Counts (e : Endpoint τ) (calls : List (Call τ)) : Prop where
  count : e.count = calls.length
  total : e.count = (e.classes.map (·.2)).sum
  errors : e.errorCount = calls.countP fun c => isErrorStatus c.status
  classes : ∀ name, (Table.get? e.classes name).getD 0 =
    calls.countP fun c => statusClass c.status == name
  fields : (fixedFields ++ Table.keys e.classes).Nodup

/-- In what is shown of an endpoint no field stands twice. -/
theorem Counts.toJson_nodup {e : Endpoint Float} {calls : List (Call Float)} (h : e.Counts calls) :
    ∃ members, e.toJson = .object members ∧ (members.map (·.1)).Nodup := by
  obtain ⟨members, hshown, hnames⟩ := e.toJson_fields
  exact ⟨members, hshown, hnames ▸ h.fields⟩

section

variable [Add τ] [LT τ] [DecidableLT τ]

/-- One more request adds one to the count, to its class and to no other. -/
theorem Counts.observe {e : Endpoint τ} {calls : List (Call τ)} (h : e.Counts calls) (c : Call τ) :
    (e.observe c.status c.time).Counts (calls ++ [c]) := by
  obtain ⟨hfixed, hclasses, hapart⟩ := List.nodup_append.mp h.fields
  refine ⟨?_, ?_, ?_, fun name => ?_, ?_⟩
  · simp [Endpoint.observe, h.count]
  · have hsum := Table.totalWhere_increment hclasses (fun _ => true) (statusClass c.status)
    rw [Table.totalWhere_true, Table.totalWhere_true, ← h.total] at hsum
    exact hsum.symm
  · rw [List.countP_append, List.countP_singleton, ← h.errors]
    simp only [isErrorStatus_iff]
    have hsum := Table.totalWhere_increment hclasses (4 ≤ classNumber ·) (statusClass c.status)
    simp only [decide_eq_true_eq] at hsum
    exact hsum
  · rw [List.countP_append, List.countP_singleton, ← h.classes]
    simp only [beq_iff_eq]
    exact Table.get?_increment e.classes (statusClass c.status) name
  · refine List.nodup_append.mpr ⟨hfixed, Table.nodup_keys_insert hclasses _ _, ?_⟩
    intro field hfield name hname heq
    rcases (Table.mem_keys_insert _ _ _).mp hname with hold | hnew
    · exact hapart field hfield name hold heq
    · rw [heq, hnew] at hfield
      exact statusClass_not_mem_fixedFields c.status hfield

variable [OfNat τ 0]

/-- What is known of an endpoint after its requests. -/
def ofCalls (calls : List (Call τ)) : Endpoint τ :=
  calls.foldl (fun e c => e.observe c.status c.time) .empty

theorem ofCalls_snoc (calls : List (Call τ)) (c : Call τ) :
    ofCalls (calls ++ [c]) = (ofCalls calls).observe c.status c.time := by
  simp [ofCalls]

theorem counts_ofCalls (calls : List (Call τ)) : (ofCalls calls).Counts calls := by
  induction calls using List.reverseRecOn with
  | nil =>
      have hfixed : fixedFields.Nodup := by decide
      exact ⟨rfl, rfl, rfl, fun _ => rfl, hfixed⟩
  | append_singleton calls c ih =>
      rw [ofCalls_snoc]
      exact ih.observe c

end

/-! ### Times -/

section

variable [AddCommMonoid τ] [LinearOrder τ]

/-- With exact times: the whole time is that of the requests, and the longest one is theirs. -/
structure Times (e : Endpoint τ) (calls : List (Call τ)) : Prop where
  whole : e.totalTime = (calls.map (·.time)).sum
  longest : ∀ c ∈ calls, c.time ≤ e.longestTime
  reached : e.longestTime = 0 ∨ ∃ c ∈ calls, c.time = e.longestTime
  bounds : (∀ c ∈ calls, 0 ≤ c.time) →
    e.longestTime ≤ e.totalTime ∧ e.totalTime ≤ e.count • e.longestTime

theorem observe_longestTime (e : Endpoint τ) (status : Int) (time : τ) :
    (e.observe status time).longestTime = max e.longestTime time := by
  rw [observe, max_def_lt]

theorem longestTime_nonneg (calls : List (Call τ)) : 0 ≤ (ofCalls calls).longestTime := by
  induction calls using List.reverseRecOn with
  | nil => exact le_refl 0
  | append_singleton calls c ih =>
      rw [ofCalls_snoc, observe_longestTime]
      exact le_max_of_le_left ih

variable [IsOrderedAddMonoid τ]

/-- What one more time adds to the whole is at most what it adds to the bound. -/
theorem bounds_observe {e : Endpoint τ} {status : Int} {time : τ} (hlongest : 0 ≤ e.longestTime)
    (htime : 0 ≤ time) (hlow : e.longestTime ≤ e.totalTime)
    (hhigh : e.totalTime ≤ e.count • e.longestTime) :
    (e.observe status time).longestTime ≤ (e.observe status time).totalTime ∧
      (e.observe status time).totalTime ≤
        (e.observe status time).count • (e.observe status time).longestTime := by
  rw [observe_longestTime]
  refine ⟨max_le (hlow.trans (le_add_of_nonneg_right htime))
    (le_add_of_nonneg_left (hlongest.trans hlow)), ?_⟩
  calc e.totalTime + time
      ≤ e.count • e.longestTime + time := add_le_add_left hhigh time
    _ ≤ e.count • max e.longestTime time + max e.longestTime time :=
        add_le_add (nsmul_le_nsmul_right (le_max_left _ _) e.count) (le_max_right _ _)
    _ = (e.count + 1) • max e.longestTime time := (succ_nsmul _ _).symm

theorem times_ofCalls (calls : List (Call τ)) : (ofCalls calls).Times calls := by
  induction calls using List.reverseRecOn with
  | nil => exact ⟨rfl, nofun, .inl rfl, fun _ => ⟨le_refl 0, (zero_nsmul _).ge⟩⟩
  | append_singleton calls c ih =>
      have hmax := observe_longestTime (ofCalls calls) c.status c.time
      rw [ofCalls_snoc]
      refine ⟨?_, fun other hother => ?_, ?_, fun hall => ?_⟩
      · rw [List.map_append, List.sum_append, List.map_singleton, List.sum_singleton, ← ih.whole]
        rfl
      · rw [hmax]
        rcases List.mem_append.mp hother with hold | hnew
        · exact le_max_of_le_left (ih.longest other hold)
        · rw [List.mem_singleton.mp hnew]
          exact le_max_right _ _
      · rw [hmax]
        rcases max_choice (ofCalls calls).longestTime c.time with hold | hnew
        · rw [hold]
          refine ih.reached.imp id fun ⟨first, hfirst, htime⟩ => ?_
          exact ⟨first, List.mem_append_left _ hfirst, htime⟩
        · exact .inr ⟨c, by simp, hnew.symm⟩
      · obtain ⟨hlow, hhigh⟩ := ih.bounds fun other hother =>
          hall other (List.mem_append_left _ hother)
        exact bounds_observe (longestTime_nonneg calls) (hall c (by simp)) hlow hhigh

end

end Endpoint

end VacancyLedger
