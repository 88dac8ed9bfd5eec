/-
Ledgers that nobody can tell apart.

Whoever uses a ledger sees it through what it answers: readers see what has been committed,
whoever is connected sees what is pending as well.  A ledger may therefore carry a pending copy of
what is committed, and be told from one without it by nobody.  `Resembles` says of two ledgers
that the same is seen in them.  One lemma says that each use of two such ledgers is answered alike
and leaves two such ledgers behind; so they are answered alike for ever, whatever is committed,
rolled back, dropped or closed in between.
-/
import VacancyLedger.Ledger.Search
import VacancyLedger.Proofs.Ledger.History

namespace VacancyLedger.Ledger

/-- What a ledger can be used for; a transaction may do any work, which answers with an `α` or fails
with an `ε`. -/
inductive Use (ε α : Type) where
  | enter (source : Source) (time : String)
  | company (id : String)
  | companies (enabledOnly : Bool)
  | active (company : String)
  | transact (company : String) (work : Work ε α)
  | search (filter : Filter) (limit : Int) (wanted : Posting → Bool)
  | posting (id : Int)
  | record (report : CycleReport) (time : String)
  | cycles (company : Option String) (limit : Int)
  | drop (table : String)
  | connect
  | close

/-- What a ledger answers. -/
inductive Reply (ε α : Type) where
  | entered (result : Except Fault Company)
  | company (result : Except Fault (Option Company))
  | companies (result : Except Fault (List Company))
  | active (result : Except (Abort ε) (List Posting))
  | transacted (result : Except (Abort ε) α)
  | found (result : Except Fault (List Posting))
  | posting (result : Except Fault (Option Posting))
  | recorded (result : Except Fault Nat)
  | cycles (result : Except Fault (List RecordedCycle))
  | dropped (result : Except Fault Unit)
  | done

variable {ε α : Type}

/-- The ledger after a change that may fail; one that fails changes nothing. -/
def changed (l : Ledger) (change : Except Fault Ledger) : Ledger := (change.toOption).getD l

/-- Uses a ledger: what it answers, and the ledger after it. -/
def use (l : Ledger) : Use ε α → Reply ε α × Ledger
  | .enter source time =>
    (.entered ((l.enter source time).map (·.1)), l.changed ((l.enter source time).map (·.2)))
  | .company id => (.company (l.company? id), l)
  | .companies enabledOnly => (.companies (l.listCompanies enabledOnly), l)
  | .active company => (.active (l.activePostings company), l)
  | .transact company work =>
    (.transacted (l.transaction company work).1, (l.transaction company work).2)
  | .search filter limit wanted => (.found (l.search filter limit wanted), l)
  | .posting id => (.posting (l.posting? id), l)
  | .record report time => (.recorded (l.record report time).1, (l.record report time).2)
  | .cycles company limit => (.cycles (l.listCycles company limit), l)
  | .drop table => (.dropped ((l.drop table).map fun _ => ()), l.changed (l.drop table))
  | .connect => (.done, l.connect)
  | .close => (.done, l.close)

/-- What a ledger answers if it is used again and again. -/
def replies (l : Ledger) : List (Use ε α) → List (Reply ε α)
  | [] => []
  | first :: rest => (l.use first).1 :: (l.use first).2.replies rest

/-- Two ledgers in which the same is seen, by readers and by who writes. -/
structure Resembles (l other : Ledger) : Prop where
  committed : l.committed = other.committed
  view : l.view = other.view
  connected : l.connected = other.connected

namespace Resembles

variable {l other : Ledger}

theorem refl (l : Ledger) : l.Resembles l := ⟨rfl, rfl, rfl⟩

theorem symm (h : l.Resembles other) : other.Resembles l :=
  ⟨h.committed.symm, h.view.symm, h.connected.symm⟩

theorem trans {third : Ledger} (h : l.Resembles other) (k : other.Resembles third) :
    l.Resembles third :=
  ⟨h.committed.trans k.committed, h.view.trans k.view, h.connected.trans k.connected⟩

/-! ### What is read -/

theorem writable (h : l.Resembles other) : l.writable = other.writable := by
  rw [Ledger.writable, Ledger.writable, h.connected, h.view]

theorem companyRows (h : l.Resembles other) : l.companyRows = other.companyRows := by
  rw [Ledger.companyRows, Ledger.companyRows, h.writable]

theorem committedPostings (h : l.Resembles other) :
    l.committedPostings = other.committedPostings := by
  rw [Ledger.committedPostings, Ledger.committedPostings, h.committed]

theorem activePostings (h : l.Resembles other) (company : String) :
    (l.activePostings company : Except (Abort ε) _) = other.activePostings company := by
  unfold Ledger.activePostings activePostingsUnder
  rw [h.writable]

/-! ### What is written -/

theorem pending (h : l.Resembles other) (t : Tables) :
    Resembles { l with pending := some t } { other with pending := some t } :=
  ⟨h.committed, rfl, h.connected⟩

theorem rollback (h : l.Resembles other) : l.rollback = other.rollback := by
  show (⟨l.committed, none, l.connected⟩ : Ledger) = ⟨other.committed, none, other.connected⟩
  rw [h.committed, h.connected]

theorem changed (h : l.Resembles other) {change change' : Except Fault Ledger}
    (hchange : change = change') : (l.changed change).Resembles (other.changed change') := by
  subst hchange
  cases change with
  | error fault => exact h
  | ok after => exact .refl after

theorem enter (h : l.Resembles other) (source : Source) (time : String) :
    l.enter source time = other.enter source time := by
  unfold Ledger.enter
  rw [h.writable]
  cases other.writable with
  | error fault => rfl
  | ok t => simp only [bind, Except.bind, commit_pending, h.connected]

theorem drop (h : l.Resembles other) (table : String) : l.drop table = other.drop table := by
  unfold Ledger.drop
  rw [h.writable]
  cases other.writable with
  | error fault => rfl
  | ok t => simp only [bind, Except.bind, commit_pending, h.connected]

theorem transaction (h : l.Resembles other) (company : String) (work : Work ε α) :
    (l.transaction company work).1 = (other.transaction company work).1 ∧
      (l.transaction company work).2.Resembles (other.transaction company work).2 := by
  unfold Ledger.transaction
  rw [h.connected, h.view]
  split
  · exact ⟨rfl, h⟩
  · split
    · exact ⟨rfl, .refl _⟩
    · rw [h.rollback]
      exact ⟨rfl, .refl _⟩

theorem append (h : l.Resembles other) (report : CycleReport) :
    (l.append report).1 = (other.append report).1 ∧
      (l.append report).2.Resembles (other.append report).2 := by
  unfold Ledger.append
  rw [h.view]
  split
  · exact ⟨rfl, h⟩
  · split
    · exact ⟨rfl, h.pending _⟩
    · simp only [commit_pending, h.connected]
      exact ⟨trivial, .refl _⟩

theorem record (h : l.Resembles other) (report : CycleReport) (time : String) :
    (l.record report time).1 = (other.record report time).1 ∧
      (l.record report time).2.Resembles (other.record report time).2 := by
  unfold Ledger.record note
  rw [h.writable]
  cases other.writable with
  | error fault => exact ⟨rfl, h⟩
  | ok t =>
      by_cases hskipped : report.status = .skipped
      · simpa [hskipped, bind, Except.bind, pure, Except.pure] using h.append report
      · cases hrows : requireTable companiesName t.companies with
        | error fault => simpa [hskipped, hrows, bind, Except.bind] using h
        | ok rows =>
            simpa [hskipped, hrows, bind, Except.bind, pure, Except.pure] using
              (h.pending _).append report

theorem connect (h : l.Resembles other) : l.connect = other.connect := by
  rw [Ledger.connect, Ledger.connect, h.committed]

theorem close (h : l.Resembles other) : l.close = other.close := by
  rw [Ledger.close, Ledger.close, h.committed]

/-! ### Any use -/

/-- **Ledgers in which the same is seen answer a use alike, and the same is seen in them after
it.** -/
theorem use (h : l.Resembles other) (u : Use ε α) :
    (l.use u).1 = (other.use u).1 ∧ (l.use u).2.Resembles (other.use u).2 := by
  cases u with
  | enter source time =>
      have henter := h.enter source time
      refine ⟨congrArg Reply.entered ?_, h.changed ?_⟩ <;> rw [henter]
  | company id =>
      refine ⟨congrArg Reply.company ?_, h⟩
      rw [company?, company?, h.companyRows]
  | companies enabledOnly =>
      refine ⟨congrArg Reply.companies ?_, h⟩
      rw [listCompanies, listCompanies, h.companyRows]
  | active company => exact ⟨congrArg Reply.active (h.activePostings company), h⟩
  | transact company work =>
      obtain ⟨hanswer, hafter⟩ := h.transaction company work
      exact ⟨congrArg Reply.transacted hanswer, hafter⟩
  | search filter limit wanted =>
      refine ⟨congrArg Reply.found ?_, h⟩
      rw [search, search, h.committedPostings]
  | posting id =>
      refine ⟨congrArg Reply.posting ?_, h⟩
      rw [posting?, posting?, h.committedPostings]
  | record report time =>
      obtain ⟨hanswer, hafter⟩ := h.record report time
      exact ⟨congrArg Reply.recorded hanswer, hafter⟩
  | cycles company limit =>
      refine ⟨congrArg Reply.cycles ?_, h⟩
      rw [listCycles, listCycles, h.writable]
  | drop table =>
      have hdrop := h.drop table
      refine ⟨congrArg Reply.dropped ?_, h.changed hdrop⟩
      rw [hdrop]
  | connect =>
      show _ ∧ l.connect.Resembles other.connect
      rw [h.connect]
      exact ⟨rfl, .refl _⟩
  | close =>
      show _ ∧ l.close.Resembles other.close
      rw [h.close]
      exact ⟨rfl, .refl _⟩

/-- Ledgers in which the same is seen are never told apart. -/
theorem replies (uses : List (Use ε α)) :
    ∀ {l other : Ledger}, l.Resembles other → l.replies uses = other.replies uses := by
  induction uses with
  | nil =>
      intro l other _
      rfl
  | cons u rest ih =>
      intro l other h
      obtain ⟨hreply, hafter⟩ := h.use u
      rw [Ledger.replies, Ledger.replies, hreply, ih hafter]

end Resembles
end VacancyLedger.Ledger
