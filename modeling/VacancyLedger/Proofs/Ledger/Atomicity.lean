/-
A transaction is done as a whole or not at all.

What an action comes to is computed by `Action.run`.  Here it is also said, action by action,
when it succeeds and what it leaves (`Does`) and when it is refused and why (`Refuses`); one of
the two is always the case, and `run` computes which.  So a list of actions is done to its
end, each action on what those before it have left, or it stops at the first one that is
refused or that the database gives trouble with.  In the one case what the last action has
left is committed.  In the other, wherever it stops and whatever was written by then, the
ledger is the one it was: no row, no number and nothing pending is left over.
-/
import Mathlib.Data.List.Induction
import VacancyLedger.Ledger.Action
import VacancyLedger.Proofs.Ledger.Apply
import VacancyLedger.Proofs.Ledger.Search

namespace VacancyLedger.Ledger

/-! ### One action -/

/-- Whether an action uses the postings. -/
def Action.usesPostings : Action → Bool
  | .raise _ | .malformed _ => false
  | _ => true

/-- What an action that succeeds answers and leaves. -/
inductive Does (company : String) : Action → Tables → ActionAnswer → Tables → Prop
  | find {t : Tables} {table : Numbered Posting} {key : String} (h : t.postings = some table) :
      Does company (.find key) t (.found (table.rows.find? (·.isAt company key))) t
  | insert {t : Tables} {table : Numbered Posting} {companies : List Company} {listing : Listing}
      {now : String} (h : t.postings = some table) (hcompanies : t.companies = some companies)
      (hstored : ∃ c ∈ companies, c.id = company)
      (hfree : table.rows.find? (·.isAt company listing.key) = none) :
      Does company (.insert listing now) t (.inserted (table.lastId + 1)) (t.withPostings
        ⟨table.rows ++ [.fresh (table.lastId + 1) company listing now], table.lastId + 1⟩)
  | close {t : Tables} {table : Numbered Posting} {key now : String}
      (h : t.postings = some table) :
      Does company (.close key now) t
        (.changed (table.rows.any fun p => p.isAt company key && p.isActive))
        (t.withPostings { table with
          rows := table.rows.map fun p =>
            if p.isAt company key && p.isActive then p.closed now else p })
  | renew {t : Tables} {table : Numbered Posting} {stored : Posting} {listing : Listing}
      {now : String} (h : t.postings = some table)
      (hstored : table.rows.find? (·.isAt company listing.key) = some stored)
      (hagrees : stored.content.agrees listing.content = true) :
      Does company (.renew listing now) t (.changed false)
        (t.withPostings { table with
          rows := table.rows.map fun p => if p.id == stored.id then p.seen now else p })
  | rewrite {t : Tables} {table : Numbered Posting} {stored : Posting} {listing : Listing}
      {now : String} (h : t.postings = some table)
      (hstored : table.rows.find? (·.isAt company listing.key) = some stored)
      (hdiffers : stored.content.agrees listing.content = false) :
      Does company (.renew listing now) t (.changed true)
        (t.withPostings { table with
          rows := table.rows.map fun p =>
            if p.id == stored.id then p.withContent listing.content now else p })
  | reopen {t : Tables} {table : Numbered Posting} {stored : Posting} {listing : Listing}
      {now : String} (h : t.postings = some table)
      (hstored : table.rows.find? (·.isAt company listing.key) = some stored) :
      Does company (.reopen listing now) t .done
        (t.withPostings { table with
          rows := table.rows.map fun p =>
            if p.id == stored.id then p.reopened listing.content now else p })

/-- Why an action is refused. -/
inductive Refuses (company : String) : Action → Tables → Fault ⊕ ActionError → Prop
  | noPostings {action : Action} {t : Tables} (huses : action.usesPostings = true)
      (h : t.postings = none) : Refuses company action t (.inl (.noTable postingsName))
  | noCompanies {t : Tables} {table : Numbered Posting} {listing : Listing} {now : String}
      (h : t.postings = some table) (hcompanies : t.companies = none) :
      Refuses company (.insert listing now) t (.inl (.noTable ("main." ++ companiesName)))
  | taken {t : Tables} {table : Numbered Posting} {companies : List Company} {stored : Posting}
      {listing : Listing} {now : String} (h : t.postings = some table)
      (hcompanies : t.companies = some companies)
      (hstored : table.rows.find? (·.isAt company listing.key) = some stored) :
      Refuses company (.insert listing now) t (.inl .duplicateKey)
  | unknown {t : Tables} {table : Numbered Posting} {companies : List Company} {listing : Listing}
      {now : String} (h : t.postings = some table) (hcompanies : t.companies = some companies)
      (hfree : table.rows.find? (·.isAt company listing.key) = none)
      (hunknown : ∀ c ∈ companies, c.id ≠ company) :
      Refuses company (.insert listing now) t (.inl .noCompany)
  | nothingToRenew {t : Tables} {table : Numbered Posting} {listing : Listing} {now : String}
      (h : t.postings = some table)
      (hfree : table.rows.find? (·.isAt company listing.key) = none) :
      Refuses company (.renew listing now) t (.inr .nothingToRenew)
  | nothingToReopen {t : Tables} {table : Numbered Posting} {listing : Listing} {now : String}
      (h : t.postings = some table)
      (hfree : table.rows.find? (·.isAt company listing.key) = none) :
      Refuses company (.reopen listing now) t (.inr .nothingToReopen)
  | raised {t : Tables} {message : String} :
      Refuses company (.raise message) t (.inr (.raised message))
  | malformed {t : Tables} {problems : List Config.Problem} :
      Refuses company (.malformed problems) t (.inr (.malformed problems))

variable {company : String} {action : Action} {actions : List Action} {t after : Tables}
  {answer : ActionAnswer} {answers : List ActionAnswer} {error : Fault ⊕ ActionError}

theorem Does.run (h : Does company action t answer after) :
    action.run company t = .ok (answer, after) := by
  cases h with
  | find h => simp [Action.run, find_eq h, bind, Except.bind, pure, Except.pure]
  | insert h hcompanies hstored hfree =>
      simp [Action.run, insert_eq h hcompanies hstored hfree, bind, Except.bind, pure, Except.pure]
  | close h => simp [Action.run, close_eq h, bind, Except.bind, pure, Except.pure]
  | renew h hstored hagrees =>
      simp [Action.run, find_eq h, hstored, Tables.renew, hagrees, updatePostings_eq h, bind,
        Except.bind, pure, Except.pure]
  | rewrite h hstored hdiffers =>
      simp [Action.run, find_eq h, hstored, Tables.renew, hdiffers, updatePostings_eq h, bind,
        Except.bind, pure, Except.pure]
  | reopen h hstored =>
      simp [Action.run, find_eq h, hstored, Tables.reopen, updatePostings_eq h, bind, Except.bind,
        pure, Except.pure]

theorem any_isAt_of_find? {rows : List Posting} {key : String} {stored : Posting}
    (h : rows.find? (·.isAt company key) = some stored) :
    rows.any (·.isAt company key) = true :=
  List.any_eq_true.mpr ⟨stored, List.mem_of_find?_eq_some h, by simpa using List.find?_some h⟩

theorem Refuses.run (h : Refuses company action t error) :
    action.run company t = .error error := by
  cases h with
  | noPostings huses h =>
      cases action with
      | raise _ | malformed _ => cases huses
      | find _ | close _ _ | renew _ _ | reopen _ _ =>
          simp [Action.run, Tables.find, Tables.close, Tables.postingRows, requireTable, h, bind,
            Except.bind, Except.map]
      | insert _ _ => simp [Action.run, Tables.insert, requireTable, h, bind, Except.bind]
  | noCompanies h hcompanies =>
      simp [Action.run, Tables.insert, requireTable, h, hcompanies, bind, Except.bind]
  | taken h hcompanies hstored =>
      have htaken := any_isAt_of_find? hstored
      simp only [Action.run, Tables.insert, requireTable, h, hcompanies, bind, Except.bind, htaken,
        if_true, error_mapError]
  | @unknown _ table companies listing _ h hcompanies hfree hunknown =>
      have hnone : table.rows.any (·.isAt company listing.key) = false := by
        simpa [List.any_eq_false] using find?_isAt_none_iff.mp hfree
      have hno : companies.any (·.id == company) = false := by
        simpa [List.any_eq_false] using hunknown
      simp only [Action.run, Tables.insert, requireTable, h, hcompanies, bind, Except.bind, hnone,
        hno, Bool.false_eq_true, if_false, Bool.not_false, if_true, error_mapError]
  | nothingToRenew h hfree | nothingToReopen h hfree =>
      simp [Action.run, find_eq h, hfree, bind, Except.bind, throw, throwThe, MonadExceptOf.throw]
  | raised | malformed => rfl

/-- An action is done or refused. -/
theorem does_or_refuses (company : String) (action : Action) (t : Tables) :
    (∃ answer after, Does company action t answer after) ∨
      ∃ error, Refuses company action t error := by
  by_cases huses : action.usesPostings = true
  · cases h : t.postings with
    | none => exact .inr ⟨_, .noPostings huses h⟩
    | some table =>
        cases action with
        | raise _ | malformed _ => cases huses
        | find key => exact .inl ⟨_, _, .find h⟩
        | close key now => exact .inl ⟨_, _, .close h⟩
        | insert listing now =>
            cases hcompanies : t.companies with
            | none => exact .inr ⟨_, .noCompanies h hcompanies⟩
            | some companies =>
                cases hfound : table.rows.find? (·.isAt company listing.key) with
                | some stored => exact .inr ⟨_, .taken h hcompanies hfound⟩
                | none =>
                    by_cases hstored : ∃ c ∈ companies, c.id = company
                    · exact .inl ⟨_, _, .insert h hcompanies hstored hfound⟩
                    · refine .inr ⟨_, .unknown h hcompanies hfound ?_⟩
                      intro c hc hid
                      exact hstored ⟨c, hc, hid⟩
        | renew listing now =>
            cases hfound : table.rows.find? (·.isAt company listing.key) with
            | none => exact .inr ⟨_, .nothingToRenew h hfound⟩
            | some stored =>
                cases hagrees : stored.content.agrees listing.content with
                | true => exact .inl ⟨_, _, .renew h hfound hagrees⟩
                | false => exact .inl ⟨_, _, .rewrite h hfound hagrees⟩
        | reopen listing now =>
            cases hfound : table.rows.find? (·.isAt company listing.key) with
            | none => exact .inr ⟨_, .nothingToReopen h hfound⟩
            | some stored => exact .inl ⟨_, _, .reopen h hfound⟩
  · cases action with
    | raise message => exact .inr ⟨_, .raised⟩
    | malformed problems => exact .inr ⟨_, .malformed⟩
    | find _ | insert _ _ | close _ _ | renew _ _ | reopen _ _ => exact absurd rfl huses

/-! ### Actions one after the other -/

/-- Actions that are done one after the other, each on what those before it have left. -/
inductive Done (company : String) : List Action → Tables → List ActionAnswer → Tables → Prop
  | nil (t : Tables) : Done company [] t [] t
  | cons {action : Action} {actions : List Action} {t middle after : Tables}
      {answer : ActionAnswer} {answers : List ActionAnswer}
      (h : Does company action t answer middle)
      (hrest : Done company actions middle answers after) :
      Done company (action :: actions) t (answer :: answers) after

/-- Does actions one after the other from action `n` on, the database giving trouble. -/
def runActionsUnder (trouble : Nat → Option Fault) (company : String) :
    Nat → List Action → Work ActionError (List ActionAnswer)
  | _, [], t => .ok ([], t)
  | n, action :: actions, t =>
    match trouble n with
    | some fault => .error (.inl fault)
    | none => do
      let (answer, t) ← action.run company t
      let (answers, t) ← runActionsUnder trouble company (n + 1) actions t
      return (answer :: answers, t)

/-- Does actions in one transaction, the database giving trouble. -/
def actUnder (l : Ledger) (trouble : Trouble) (company : String) (actions : List Action) :
    Except (Abort ActionError) (List ActionAnswer) × Ledger :=
  l.transaction company fun t => do
    let done ← runActionsUnder trouble.writing company 0 actions t
    (attempt trouble.committing (.ok done)).mapError .inl

theorem runActionsUnder_none (company : String) (actions : List Action) :
    ∀ (n : Nat) (t : Tables),
      runActionsUnder (fun _ => none) company n actions t = runActions company actions t := by
  induction actions with
  | nil => intro n t; rfl
  | cons action rest ih =>
      intro n t
      simp only [runActionsUnder, runActions, ih]

/-- A transaction that is simply run meets no trouble. -/
theorem act_eq (l : Ledger) (company : String) (actions : List Action) :
    l.act company actions = l.actUnder .none company actions := by
  unfold act actUnder
  congr 1
  funext t
  show _ = runActionsUnder (fun _ => none) company 0 actions t >>= _
  rw [runActionsUnder_none]
  cases runActions company actions t <;> rfl

/-- Whether the database gives no trouble with the first `n` actions. -/
def Spares (trouble : Nat → Option Fault) (n : Nat) : Prop := ∀ i < n, trouble i = none

/-- What was done to begin with is what the rest is done on. -/
theorem Done.runActions {trouble : Nat → Option Fault} {rest : List Action}
    (h : Done company actions t answers after) :
    ∀ n : Nat, Spares (fun i => trouble (n + i)) actions.length →
      runActionsUnder trouble company n (actions ++ rest) t =
        (runActionsUnder trouble company (n + actions.length) rest after).map fun done =>
          (answers ++ done.1, done.2) := by
  induction h with
  | nil t =>
      intro n _
      show runActionsUnder trouble company n rest t = _
      cases hrest : runActionsUnder trouble company n rest t with
      | error error => rfl
      | ok done => rfl
  | @cons action actions t middle after answer answers hdoes _ ih =>
      intro n hspared
      have hfirst : trouble n = none := hspared 0 (Nat.zero_lt_succ _)
      have hrest : Spares (fun i => trouble (n + 1 + i)) actions.length := by
        intro i hi
        have hnext := hspared (i + 1) (Nat.succ_lt_succ hi)
        simp only at hnext ⊢
        rwa [show n + 1 + i = n + (i + 1) by omega]
      rw [List.cons_append, runActionsUnder, hfirst, List.length_cons,
        show n + (actions.length + 1) = n + 1 + actions.length by omega]
      simp only [hdoes.run, bind, Except.bind, ih (n + 1) hrest]
      cases runActionsUnder trouble company (n + 1 + actions.length) rest after <;> rfl

/-- Actions that are all done. -/
theorem Done.runActions_nil {trouble : Nat → Option Fault}
    (h : Done company actions t answers after) (hspared : Spares trouble actions.length) :
    runActionsUnder trouble company 0 actions t = .ok (answers, after) := by
  have hfirst : Spares (fun i => trouble (0 + i)) actions.length := by simpa using hspared
  have hrun := @Done.runActions _ _ _ _ _ trouble [] h 0 hfirst
  simpa [runActionsUnder, Except.map] using hrun

theorem Done.snoc {middle : Tables} (h : Done company actions t answers middle)
    (hlast : Does company action middle answer after) :
    Done company (actions ++ [action]) t (answers ++ [answer]) after := by
  induction h with
  | nil t => exact .cons hlast (.nil after)
  | cons hdoes _ ih => exact .cons hdoes (ih hlast)

/-! ### Where a transaction stops -/

/-- Why actions are not done to their end: one is refused, or the database gives trouble with it. -/
inductive Stops (trouble : Nat → Option Fault) (company : String) (actions : List Action)
    (t : Tables) : Fault ⊕ ActionError → Prop
  | refused {before rest : List Action} {action : Action} {answers : List ActionAnswer}
      {middle : Tables} {error : Fault ⊕ ActionError}
      (hactions : actions = before ++ action :: rest)
      (hbefore : Done company before t answers middle)
      (hspared : Spares trouble (before.length + 1)) (h : Refuses company action middle error) :
      Stops trouble company actions t error
  | troubled {before rest : List Action} {action : Action} {answers : List ActionAnswer}
      {middle : Tables} {fault : Fault} (hactions : actions = before ++ action :: rest)
      (hbefore : Done company before t answers middle) (hspared : Spares trouble before.length)
      (h : trouble before.length = some fault) : Stops trouble company actions t (.inl fault)

/-- Why a transaction comes to nothing: it stops, or it cannot be committed. -/
inductive Fails (trouble : Trouble) (company : String) (actions : List Action) (t : Tables) :
    Fault ⊕ ActionError → Prop
  | stopped {error : Fault ⊕ ActionError} (h : Stops trouble.writing company actions t error) :
      Fails trouble company actions t error
  | uncommitted {answers : List ActionAnswer} {after : Tables} {fault : Fault}
      (hdone : Done company actions t answers after)
      (hspared : Spares trouble.writing actions.length) (h : trouble.committing = some fault) :
      Fails trouble company actions t (.inl fault)

/-- How an error leaves a transaction on a company: complaints of the database are reported as
such, anything else is passed on. -/
inductive Leaves (company : String) : Fault ⊕ ActionError → Abort ActionError → Prop
  | complaint {fault : Fault} (h : fault.isDatabase = true) :
      Leaves company (.inl fault) (.persistence (.writing company fault))
  | fault {fault : Fault} (h : fault.isDatabase = false) :
      Leaves company (.inl fault) (.fault fault)
  | other (e : ActionError) : Leaves company (.inr e) (.other e)

theorem leaves_of (company : String) (error : Fault ⊕ ActionError) :
    Leaves company error (.of company error) := by
  cases error with
  | inr e => exact .other e
  | inl fault =>
      cases h : fault.isDatabase with
      | true => simpa [Abort.of, h] using Leaves.complaint h
      | false => simpa [Abort.of, h] using Leaves.fault h

theorem Spares.succ {trouble : Nat → Option Fault} {n : Nat} (h : Spares trouble n)
    (hlast : trouble n = none) : Spares trouble (n + 1) := by
  intro i hi
  by_cases hlt : i < n
  · exact h i hlt
  · rw [show i = n by omega]
    exact hlast

/-- Actions are done to their end, or they stop. -/
theorem done_or_stops (trouble : Nat → Option Fault) (company : String) (t : Tables)
    (actions : List Action) :
    (∃ answers after, Done company actions t answers after ∧ Spares trouble actions.length) ∨
      ∃ error, Stops trouble company actions t error := by
  induction actions using List.reverseRecOn with
  | nil => exact .inl ⟨[], t, .nil t, fun i hi => absurd hi (Nat.not_lt_zero i)⟩
  | append_singleton before action ih =>
      rcases ih with ⟨answers, middle, hdone, hspared⟩ | ⟨error, hstops⟩
      · cases htrouble : trouble before.length with
        | some fault => exact .inr ⟨_, .troubled rfl hdone hspared htrouble⟩
        | none =>
            rcases does_or_refuses company action middle with
              ⟨answer, after, hdoes⟩ | ⟨error, hrefuses⟩
            · refine .inl ⟨_, after, hdone.snoc hdoes, ?_⟩
              rw [List.length_append]
              exact hspared.succ htrouble
            · exact .inr ⟨_, .refused rfl hdone (hspared.succ htrouble) hrefuses⟩
      · -- What stops some actions stops more of them.
        have hmore : ∀ {first rest : List Action} {next : Action}, before = first ++ next :: rest →
            before ++ [action] = first ++ next :: (rest ++ [action]) := by
          intro first rest next hactions
          rw [hactions, List.append_assoc, List.cons_append]
        cases hstops with
        | refused hactions hbefore hspared h =>
            exact .inr ⟨_, .refused (hmore hactions) hbefore hspared h⟩
        | troubled hactions hbefore hspared h =>
            exact .inr ⟨_, .troubled (hmore hactions) hbefore hspared h⟩

theorem Stops.runActions {trouble : Nat → Option Fault}
    (h : Stops trouble company actions t error) :
    runActionsUnder trouble company 0 actions t = .error error := by
  cases h with
  | @refused before rest action answers middle error hactions hbefore hspared h =>
      have hfirst : Spares (fun i => trouble (0 + i)) before.length := by
        intro i hi
        simpa using hspared i (Nat.lt_succ_of_lt hi)
      have hnone : trouble before.length = none := hspared _ (Nat.lt_succ_self _)
      rw [hactions, hbefore.runActions 0 hfirst, Nat.zero_add, runActionsUnder, hnone]
      simp only [h.run, bind, Except.bind, Except.map]
  | @troubled before rest action answers middle fault hactions hbefore hspared h =>
      rw [hactions, hbefore.runActions 0 (by simpa using hspared), Nat.zero_add, runActionsUnder, h]
      rfl

/-! ### Committed or forgotten -/

section

variable {l : Ledger} {trouble : Trouble}

theorem actUnder_disconnected (trouble : Trouble) (company : String) (actions : List Action)
    (h : l.connected = false) :
    l.actUnder trouble company actions = (.error (.fault .disconnected), l) := by
  simp [actUnder, transaction, h]

/-- What the last action has left is committed. -/
theorem actUnder_done (hconnected : l.connected = true) (hpending : l.pending = none)
    (hdone : Done company actions l.committed answers after)
    (hspared : Spares trouble.writing actions.length) (hcommitting : trouble.committing = none) :
    l.actUnder trouble company actions = (.ok answers, { l with committed := after }) := by
  have hrun := hdone.runActions_nil hspared
  unfold actUnder transaction
  simp only [hconnected, view_of_settled hpending, hrun, hcommitting]
  simp [attempt, bind, Except.bind, commit, view, hpending]

/-- Whatever stops the actions or keeps them from being committed, the ledger is as it was. -/
theorem actUnder_fails (hconnected : l.connected = true) (hpending : l.pending = none)
    (hfails : Fails trouble company actions l.committed error) :
    l.actUnder trouble company actions = (.error (.of company error), l) := by
  have hwork : (do
      let done ← runActionsUnder trouble.writing company 0 actions l.committed
      (attempt trouble.committing (.ok done)).mapError .inl) = .error error := by
    cases hfails with
    | stopped h => simp [h.runActions, bind, Except.bind]
    | uncommitted hdone hspared h =>
        simp [hdone.runActions_nil hspared, h, attempt, bind, Except.bind]
  unfold actUnder transaction
  simp only [hconnected, view_of_settled hpending, hwork, rollback_of_settled hpending]
  simp

/-- A search goes through what has been committed. -/
theorem search_committed {table : Numbered Posting} (h : l.committed.postings = some table)
    (f : Filter) {limit : Int} (wanted : Posting → Bool) (hlimit : 1 ≤ limit) :
    ∃ found, l.search f limit wanted = .ok found ∧
      Shows (table.rows.filter fun p => f.accepts p && wanted p) limit.toNat found := by
  refine ⟨_, (search_ok_iff hlimit).mpr ⟨table.rows, ?_, rfl⟩, shows_take _ _⟩
  simp [committedPostings, h, requireTable, Except.map]

end

/--
**A transaction is done as a whole or not at all.**  If all of its actions are done, each on what
those before it have left, what the last has left is committed and searches go through it.  If
one of them is refused, or the database gives trouble with one of them or with the commit, that is
what the transaction fails with, and the ledger is the one it was.
-/
theorem transaction_atomic (l : Ledger) (trouble : Trouble) (company : String)
    (actions : List Action) (hpending : l.pending = none) :
    l.act company actions = l.actUnder .none company actions ∧
    (l.connected = false →
      l.actUnder trouble company actions = (.error (.fault .disconnected), l)) ∧
    (l.connected = true →
      (∀ answers after, Done company actions l.committed answers after →
        Spares trouble.writing actions.length → trouble.committing = none →
        l.actUnder trouble company actions = (.ok answers, { l with committed := after }) ∧
        ∀ table, after.postings = some table → ∀ f limit wanted, 1 ≤ limit →
          ∃ found, Ledger.search { l with committed := after } f limit wanted = .ok found ∧
            Shows (table.rows.filter fun p => f.accepts p && wanted p) limit.toNat found) ∧
      (∀ error, Fails trouble company actions l.committed error →
        ∃ abort, Leaves company error abort ∧
          l.actUnder trouble company actions = (.error abort, l)) ∧
      ((∃ answers after, Done company actions l.committed answers after ∧
          Spares trouble.writing actions.length ∧ trouble.committing = none) ∨
        ∃ error, Fails trouble company actions l.committed error)) := by
  refine ⟨act_eq l company actions, actUnder_disconnected trouble company actions,
    fun hconnected => ⟨?_, ?_, ?_⟩⟩
  · intro answers after hdone hspared hcommitting
    refine ⟨actUnder_done hconnected hpending hdone hspared hcommitting, ?_⟩
    intro table htable f limit wanted hlimit
    exact search_committed (l := { l with committed := after }) htable f wanted hlimit
  · intro error hfails
    exact ⟨_, leaves_of company error, actUnder_fails hconnected hpending hfails⟩
  · rcases done_or_stops trouble.writing company l.committed actions with
      ⟨answers, after, hdone, hspared⟩ | ⟨error, hstops⟩
    · cases hcommitting : trouble.committing with
      | none => exact .inl ⟨answers, after, hdone, hspared, rfl⟩
      | some fault => exact .inr ⟨_, .uncommitted hdone hspared hcommitting⟩
    · exact .inr ⟨error, .stopped hstops⟩

/-- A listing whose key nobody has. -/
def bakerListing : Listing := bareListing "c" "Baker"

/-- The tables with that listing inserted. -/
def bakerTables : Tables :=
  sampleLedger.committed.withPostings
    ⟨sampleTable.rows ++ [.fresh 8 "acme" bakerListing "2026-01-06"], 8⟩

/-- A posting is inserted and found again, and a search shows it.  Inserting it once more fails:
then the first insertion is forgotten, and so is the number it was given. -/
theorem transaction_atomic_taken :
    (sampleLedger.act "acme" [.insert bakerListing "2026-01-06", .find "c"] =
        (.ok [.inserted 8, .found (some (.fresh 8 "acme" bakerListing "2026-01-06"))],
          { sampleLedger with committed := bakerTables }) ∧
      ∃ found, Ledger.search { sampleLedger with committed := bakerTables }
          ⟨some "acme", some true, none⟩ 1 (fun p => p.key == "c") = .ok found ∧
        found.map (·.id) = [8]) ∧
    sampleLedger.act "acme" [.insert bakerListing "2026-01-06", .find "c",
        .insert bakerListing "2026-01-07"] =
      (.error (.persistence (.writing "acme" .duplicateKey)), sampleLedger) := by
  have hinsert : Does "acme" (.insert bakerListing "2026-01-06") sampleLedger.committed
      (.inserted 8) bakerTables :=
    @Does.insert "acme" sampleLedger.committed sampleTable _ bakerListing "2026-01-06" rfl rfl
      ⟨bareCompany "acme", List.mem_cons_self, rfl⟩ rfl
  have hfind : Does "acme" (.find "c") bakerTables
      (.found (some (.fresh 8 "acme" bakerListing "2026-01-06"))) bakerTables :=
    @Does.find "acme" bakerTables _ "c" rfl
  have hdone := Done.cons hinsert (.cons hfind (.nil _))
  have htaken : Refuses "acme" (.insert bakerListing "2026-01-07") bakerTables
      (.inl .duplicateKey) := .taken rfl rfl rfl
  have hspared : ∀ n, Spares Trouble.none.writing n := fun n i _ => rfl
  refine ⟨?_, ?_⟩
  · obtain ⟨hact, -, hconnected⟩ := transaction_atomic sampleLedger .none "acme"
      [.insert bakerListing "2026-01-06", .find "c"] rfl
    obtain ⟨hrun, hsearch⟩ := (hconnected rfl).1 _ _ hdone (hspared _) rfl
    obtain ⟨found, hfound, hshows⟩ :=
      hsearch _ rfl ⟨some "acme", some true, none⟩ 1 (fun p => p.key == "c") (by decide)
    refine ⟨hact.trans hrun, found, hfound, ?_⟩
    rw [hshows.eq_take, show List.filter _ _ =
      [Posting.fresh 8 "acme" bakerListing "2026-01-06"] from rfl, List.mergeSort_singleton]
    rfl
  · obtain ⟨hact, -, hconnected⟩ := transaction_atomic sampleLedger .none "acme"
      [.insert bakerListing "2026-01-06", .find "c", .insert bakerListing "2026-01-07"] rfl
    obtain ⟨abort, hleaves, hrun⟩ := (hconnected rfl).2.1 _
      (.stopped (.refused rfl hdone (hspared _) htaken))
    rw [hact, hrun]
    cases hleaves with
    | complaint _ => rfl
    | fault h => cases h

end VacancyLedger.Ledger
