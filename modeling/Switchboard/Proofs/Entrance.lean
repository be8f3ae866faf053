import Switchboard.Proofs.Interleaving
import Switchboard.Wire.Thread

/-!
# The count of open connections

Every connection that is counted as open is in the hands of one thread, which has its guard: first
of the one that accepted it, then of whoever has its job, then of whoever has its output. A thread
that lets go of a guard lowers the count, on whatever path it does so.

* `Entrance.Moved` says everything that a thread can do in one move, and `Entrance.Booking` what
  that does to the count and to the guards.
* `Entrance.Sound` is the invariant of all interleavings: the count, the open connections and the
  guards agree, and there is room left for a client that is being accepted.
* `Entrance.reaches_accept` says that someone who accepts, and whom nobody interrupts, does what
  `Listener.accept` does at once.

Main statement: `Entrance.counts_guards`.
-/

namespace Switchboard

/-! ### Clients -/

namespace Listener

variable {l : Listener} {n m k : ℕ} {σ : ClientState}

/-- How far the connection of a client is. -/
def state? (l : Listener) (n : ℕ) : Option ClientState := l.clients[n]?.map Client.state

theorem state_client (h : l.state? n = some σ) : (l.client n).state = σ := by
  obtain ⟨c, hc, rfl⟩ := Option.map_eq_some_iff.mp h
  rw [client, hc]
  rfl

theorem state?_change_of_ne (l : Listener) (f : Client → Client) (h : m ≠ n) :
    (l.change n f).state? m = l.state? m := by
  exact congrArg _ (List.getElem?_modify_ne f l.clients h.symm)

theorem state?_change_self (h : l.state? n = some σ) (τ : ClientState) :
    (l.change n fun c => { c with state := τ }).state? n = some τ := by
  obtain ⟨c, hc, -⟩ := Option.map_eq_some_iff.mp h
  unfold state? change
  rw [List.getElem?_modify_eq, hc]
  rfl

theorem state?_connect (s : Stream) (h : l.state? n = some σ) :
    (l.connect s).1.state? n = some σ := by
  obtain ⟨c, hc, rfl⟩ := Option.map_eq_some_iff.mp h
  unfold state? connect
  rw [List.getElem?_append_left (List.getElem?_eq_some_iff.mp hc).1, hc]
  rfl

theorem state?_of_waiting? (h : l.waiting? = some n) : l.state? n = some .waiting := by
  obtain ⟨hn, hstate, -⟩ := List.findIdx?_eq_some_iff_getElem.mp h
  rw [state?, List.getElem?_eq_getElem hn]
  exact congrArg some (beq_iff_eq.mp hstate)

theorem state?_onLine (l : Listener) (n m : ℕ) (f : Line → Line) :
    (l.onLine n f).state? m = l.state? m := by
  unfold onLine
  split
  · by_cases h : m = n
    · subst h
      unfold state? change
      rw [List.getElem?_modify_eq, Option.map_eq_map, Option.map_map]
      rfl
    · exact l.state?_change_of_ne _ h
  · rfl

theorem connections_onLine (l : Listener) (n : ℕ) (f : Line → Line) :
    (l.onLine n f).connections = l.connections := by
  unfold onLine
  split <;> rfl

theorem settings_onLine (l : Listener) (n : ℕ) (f : Line → Line) :
    (l.onLine n f).settings = l.settings := by
  unfold onLine
  split <;> rfl

theorem state?_track (h : l.state? n = some σ) :
    (l.track n).1.state? n = some (.accepted (l.track n).2) :=
  state?_change_self (l := { l with connections := l.connections.track.1 }) h _

/-! ### Letting go -/

/-- A connection was released, and nobody else's changed. -/
structure Releases (l l' : Listener) (n k : ℕ) : Prop where
  settings : l'.settings = l.settings
  connections : l'.connections = (l.connections.release k).1
  others : ∀ m ≠ n, l'.state? m = l.state? m

theorem releases_release (l : Listener) (n k : ℕ) : Releases l (l.release n k) n k :=
  ⟨rfl, rfl, fun _ hm => state?_change_of_ne _ _ hm⟩

theorem releases_abandon (h : l.state? n = some (.accepted k)) :
    Releases l (l.abandon n).1 n k := by
  unfold abandon
  rw [state_client h]
  exact l.releases_release n k

theorem releases_drop (h : l.state? n = some (.converted k)) : Releases l (l.drop n).1 n k := by
  unfold drop
  rw [state_client h]
  refine ⟨l.settings_onLine n _, ?_, fun m hm => ?_⟩
  · exact congrArg (fun c => (Connections.release c k).1) (l.connections_onLine n _)
  · exact (state?_change_of_ne _ _ hm).trans (l.state?_onLine n m _)

/-- A conversion that succeeds changes nothing but how far the connection is; any other releases
it. -/
theorem convert_cases (h : l.state? n = some (.accepted k)) (id : RequestId) :
    (∃ l' r, l.convert id n = (l', some (.ok r)) ∧ l'.settings = l.settings ∧
      l'.connections = l.connections ∧ l'.state? n = some (.converted k) ∧
      ∀ m ≠ n, l'.state? m = l.state? m) ∨
    ∃ l' e, l.convert id n = (l', some (.error e)) ∧ Releases l l' n k := by
  unfold convert
  rw [state_client h]
  cases read l.settings id (l.client n).stream with
  | ok r => exact .inl ⟨_, r, rfl, rfl, rfl, state?_change_self h _, fun m hm =>
      l.state?_change_of_ne _ hm⟩
  | error e => exact .inr ⟨_, e, rfl, l.releases_release n k⟩

end Listener

namespace Entrance

variable {h h' : Entrance} {t t' u : Thread} {started : List Thread} {m : Move Entrance Thread}
  {choice : Choice} {n k : ℕ}

/-! ### What a thread can do -/

/-- What a thread does in one move: the entrance and the thread before and after it, and whom the
thread starts. -/
inductive Moved (h : Entrance) : Thread → Entrance → Thread → List Thread → Prop where
  | connect (s : Stream) :
      Moved h (.client s) { h with listener := (h.listener.connect s).1 } .done []
  | stop : Moved h (.acceptor .looking) h (.acceptor .stopped) []
  | turnAway : Moved h (.acceptor .looking) h (.acceptor .looking) []
  | welcome (room : h.full = false) : Moved h (.acceptor .looking) h (.acceptor .taking) []
  | miss : Moved h (.acceptor .taking) h (.acceptor .looking) []
  | take {n : ℕ} (waits : h.listener.waiting? = some n) :
      Moved h (.acceptor .taking) h (.acceptor (.preparing n)) []
  | lose (n : ℕ) : Moved h (.acceptor (.preparing n)) { h with listener := h.listener.lose n }
      (.acceptor .looking) []
  | prepare (n : ℕ) : Moved h (.acceptor (.preparing n)) h (.acceptor (.tracking n)) []
  | track (n : ℕ) : Moved h (.acceptor (.tracking n))
      { listener := (h.listener.track n).1, count := h.count + 1 }
      (.acceptor (.handing n (h.listener.track n).2)) []
  | hand (n k : ℕ) : Moved h (.acceptor (.handing n k)) h (.acceptor .looking) [.job n k]
  | convert {n : ℕ} (k : ℕ) {id : RequestId} {l : Listener} {r : Request}
      (converted : h.listener.convert id n = (l, some (.ok r))) :
      Moved h (.job n k) { h with listener := l } (.output n k) []
  | fail {n : ℕ} (k : ℕ) (id : RequestId)
      (failed : ∀ r, (h.listener.convert id n).2 ≠ some (.ok r)) :
      Moved h (.job n k) (h.release (h.listener.convert id n).1) .done []
  | abandon (n k : ℕ) : Moved h (.job n k) (h.release (h.listener.abandon n).1) .done []
  | answer (n k : ℕ) (deed : Line → Line) :
      Moved h (.output n k) { h with listener := h.listener.onLine n deed } (.output n k) []
  | drop (n k : ℕ) : Moved h (.output n k) (h.release (h.listener.drop n).1) .done []

theorem moved_goOn (hm : Move.goOn h' u = some m) (hmoved : Moved h t h' u []) :
    ∃ t', m.self = some t' ∧ Moved h t m.shared t' m.started := by
  obtain rfl := Option.some.inj hm
  exact ⟨u, rfl, hmoved⟩

theorem moved_of_moveAcceptor {a : Acceptor} {quits : Bool}
    (hm : h.moveAcceptor quits a = some m) :
    ∃ t', m.self = some t' ∧ Moved h (.acceptor a) m.shared t' m.started := by
  cases a with
  | looking =>
    simp only [moveAcceptor] at hm
    split at hm
    · exact moved_goOn hm .stop
    · cases hfull : h.full with
      | true =>
        rw [hfull] at hm
        exact moved_goOn hm .turnAway
      | false =>
        rw [hfull] at hm
        exact moved_goOn hm (.welcome hfull)
  | taking =>
    simp only [moveAcceptor] at hm
    split at hm
    next n hn =>
      cases quits with
      | true => exact moved_goOn hm .miss
      | false => exact moved_goOn hm (.take hn)
    next => exact moved_goOn hm .miss
  | preparing n =>
    simp only [moveAcceptor] at hm
    split at hm
    · exact moved_goOn hm (.lose n)
    · exact moved_goOn hm (.prepare n)
  | tracking n => exact moved_goOn hm (.track n)
  | handing n k =>
    obtain rfl := Option.some.inj hm
    exact ⟨_, rfl, .hand n k⟩
  | stopped => cases hm

/-- Nothing else can happen in a move. -/
theorem moved_of_move (hm : move choice h t = some m) :
    ∃ t', m.self = some t' ∧ Moved h t m.shared t' m.started := by
  cases t with
  | client s => exact moved_goOn hm (.connect s)
  | acceptor a => exact moved_of_moveAcceptor hm
  | job n k =>
    simp only [move] at hm
    split at hm
    · exact moved_goOn hm (.abandon n k)
    · split at hm
      next l r hconvert => exact moved_goOn hm (.convert k hconvert)
      next l result hfailed hconvert =>
        have hl : l = (h.listener.convert choice.id n).1 := by rw [hconvert]
        subst hl
        refine moved_goOn hm (.fail k choice.id fun r hr => hfailed r ?_)
        rw [← hr, hconvert]
  | output n k =>
    simp only [move] at hm
    split at hm
    · exact moved_goOn hm (.drop n k)
    · exact moved_goOn hm (.answer n k choice.deed)
  | done => cases hm

/-! ### What threads have in hand -/

/-- The client that a thread has in hand, and how far its connection is. -/
def Thread.hold? : Thread → Option (ℕ × ClientState)
  | .acceptor (.preparing n) | .acceptor (.tracking n) => some (n, .waiting)
  | .acceptor (.handing n k) | .job n k => some (n, .accepted k)
  | .output n k => some (n, .converted k)
  | _ => none

/-- The client that a thread has in hand. -/
def Thread.hands (t : Thread) : Multiset ℕ := (t.hold?.map Prod.fst).elim 0 singleton

/-- Whether a thread has the guard of an open connection. -/
def Thread.hasGuard : Thread → Bool
  | .acceptor (.handing _ _) | .job _ _ | .output _ _ => true
  | _ => false

/-- The number of the open connection whose guard a thread has. -/
def Thread.guards : Thread → Multiset ℕ
  | .acceptor (.handing _ k) | .job _ k | .output _ k => {k}
  | _ => 0

/-- How many places below the limit a thread has found free and will still take. -/
def Thread.pending : Thread → ℕ
  | .acceptor .taking | .acceptor (.preparing _) | .acceptor (.tracking _) => 1
  | _ => 0

/-- How many threads accept clients. -/
def Thread.accepts : Thread → ℕ
  | .acceptor _ => 1
  | _ => 0

/-- The client that a thread has in hand is as far as the thread takes it to be. -/
def Thread.Fits (l : Listener) (t : Thread) : Prop :=
  ∀ n σ, t.hold? = some (n, σ) → l.state? n = some σ

theorem Thread.card_guards (t : Thread) : t.guards.card = t.hasGuard.toNat := by
  cases t with
  | acceptor a => cases a <;> rfl
  | _ => rfl

theorem Thread.pending_le (t : Thread) : t.pending ≤ t.accepts := by
  cases t with
  | acceptor a => cases a <;> simp [pending, accepts]
  | _ => exact le_rfl

theorem Thread.fits_of_hold?_eq_none {l : Listener} (ht : t.hold? = none) : t.Fits l := by
  intro n σ hn
  rw [ht] at hn
  cases hn

theorem Thread.fits_of_hold? {l : Listener} {σ : ClientState} (ht : t.hold? = some (n, σ))
    (hn : l.state? n = some σ) : t.Fits l := by
  intro m τ hm
  rw [ht] at hm
  obtain ⟨rfl, rfl⟩ := Prod.mk.inj (Option.some.inj hm)
  exact hn

/-- The number of guards that threads have. -/
theorem card_sum_guards (threads : List Thread) :
    (threads.map Thread.guards).sum.card = threads.countP Thread.hasGuard := by
  induction threads with
  | nil => rfl
  | cons t threads ih =>
    rw [List.map_cons, List.sum_cons, Multiset.card_add, ih, t.card_guards, List.countP_cons,
      add_comm]
    cases t.hasGuard <;> rfl

/-! ### What a move does -/

/-- What a move does to the count, the open connections and the guards. -/
inductive Booking (h : Entrance) (t : Thread) (h' : Entrance) (t' : Thread) (started : List Thread) :
    Prop where
  /-- A guard may be passed on. -/
  | keeps (count : h'.count = h.count)
      (connections : h'.listener.connections = h.listener.connections)
      (guards : t'.guards + (started.map Thread.guards).sum = t.guards)
      (pending : t'.pending + (started.map Thread.pending).sum ≤ t.pending)
  /-- A place below the limit was found free. -/
  | admits (same : h' = h) (room : h.full = false) (before : t = .acceptor .looking)
      (after : t' = .acceptor .taking) (alone : started = [])
  | opens (count : h'.count = h.count + 1)
      (connections : h'.listener.connections = h.listener.connections.track.1)
      (before : t.guards = 0) (after : t'.guards = {h.listener.connections.next})
      (used : t.pending = 1) (free : t'.pending = 0) (alone : started = [])
  | closes (k : ℕ) (count : h'.count = h.count - 1)
      (connections : h'.listener.connections = (h.listener.connections.release k).1)
      (before : t.guards = {k}) (after : t'.guards = 0) (free : t'.pending = 0)
      (alone : started = [])

/-- What a move does to the clients: nobody has one in hand that somebody else has. -/
structure Handling (h : Entrance) (t : Thread) (h' : Entrance) (t' : Thread)
    (started : List Thread) : Prop where
  settings : h'.listener.settings = h.listener.settings
  accepts : t'.accepts + (started.map Thread.accepts).sum = t.accepts
  others : ∀ n ∉ t.hands, ∀ σ, h.listener.state? n = some σ → h'.listener.state? n = some σ
  fits : ∀ u ∈ t' :: started, u.Fits h'.listener
  hands : t'.hands + (started.map Thread.hands).sum ≤ t.hands ∨
    ∃ n, t'.hands + (started.map Thread.hands).sum = {n} ∧
      h.listener.state? n = some .waiting ∧ t.accepts = 1

/-- A thread that lets go of its guard and ends. -/
theorem effects_of_releases {l : Listener} (hguards : t.guards = {k}) (hhands : t.hands = {n})
    (haccepts : t.accepts = 0) (hl : Listener.Releases h.listener l n k) :
    Booking h t (h.release l) .done [] ∧ Handling h t (h.release l) .done [] where
  left := .closes k rfl hl.connections hguards rfl rfl rfl
  right :=
    { settings := hl.settings
      accepts := haccepts.symm
      others := fun m hm σ hσ => by
        rw [hhands, Multiset.mem_singleton] at hm
        exact (hl.others m hm).trans hσ
      fits := List.forall_mem_singleton.mpr (Thread.fits_of_hold?_eq_none rfl)
      hands := .inl (Multiset.zero_le _) }

/-- A thread that changes no client. -/
theorem Handling.of_same (haccepts : t'.accepts + (started.map Thread.accepts).sum = t.accepts)
    (hfits : ∀ u ∈ t' :: started, u.Fits h.listener)
    (hhands : t'.hands + (started.map Thread.hands).sum ≤ t.hands ∨
      ∃ n, t'.hands + (started.map Thread.hands).sum = {n} ∧
        h.listener.state? n = some .waiting ∧ t.accepts = 1) :
    Handling h t h t' started :=
  ⟨rfl, haccepts, fun _ _ _ hσ => hσ, hfits, hhands⟩

/-- A thread that changes nothing and has no client in hand afterwards. -/
theorem Handling.of_idle (haccepts : t'.accepts = t.accepts) (hhold : t'.hold? = none) :
    Handling h t h t' [] := by
  refine .of_same haccepts (List.forall_mem_singleton.mpr (Thread.fits_of_hold?_eq_none hhold))
    (.inl ?_)
  rw [Thread.hands, hhold]
  exact Multiset.zero_le _

/-- What a move does, if the client that the thread has in hand is as far as it should be. -/
theorem Moved.effects (hmoved : Moved h t h' t' started) (ht : t.Fits h.listener) :
    Booking h t h' t' started ∧ Handling h t h' t' started := by
  cases hmoved with
  | connect s =>
    refine ⟨.keeps rfl rfl rfl le_rfl, rfl, rfl, fun m _ σ hσ => Listener.state?_connect s hσ, ?_,
      .inl le_rfl⟩
    exact List.forall_mem_singleton.mpr (Thread.fits_of_hold?_eq_none rfl)
  | stop => exact ⟨.keeps rfl rfl rfl le_rfl, .of_idle rfl rfl⟩
  | turnAway => exact ⟨.keeps rfl rfl rfl le_rfl, .of_idle rfl rfl⟩
  | welcome room => exact ⟨.admits rfl room rfl rfl rfl, .of_idle rfl rfl⟩
  | miss => exact ⟨.keeps rfl rfl rfl (Nat.zero_le _), .of_idle rfl rfl⟩
  | @take n waits =>
    have hstate := Listener.state?_of_waiting? waits
    refine ⟨.keeps rfl rfl rfl le_rfl, .of_same rfl ?_ (.inr ⟨n, rfl, hstate, rfl⟩)⟩
    exact List.forall_mem_singleton.mpr (Thread.fits_of_hold? rfl hstate)
  | lose n =>
    refine ⟨.keeps rfl rfl rfl (Nat.zero_le _), rfl, rfl, fun m hm σ hσ => ?_, ?_,
      .inl (Multiset.zero_le _)⟩
    · exact (Listener.state?_change_of_ne _ _ (Multiset.mem_singleton.not.mp hm)).trans hσ
    · exact List.forall_mem_singleton.mpr (Thread.fits_of_hold?_eq_none rfl)
  | prepare n =>
    have hfits := Thread.fits_of_hold? (t := .acceptor (.tracking n)) rfl (ht n .waiting rfl)
    exact ⟨.keeps rfl rfl rfl le_rfl, .of_same rfl (List.forall_mem_singleton.mpr hfits)
      (.inl le_rfl)⟩
  | track n =>
    refine ⟨.opens rfl rfl rfl rfl rfl rfl rfl, rfl, rfl, fun m hm σ hσ => ?_, ?_, .inl le_rfl⟩
    · exact (Listener.state?_change_of_ne _ _ (Multiset.mem_singleton.not.mp hm)).trans hσ
    · exact List.forall_mem_singleton.mpr
        (Thread.fits_of_hold? rfl (Listener.state?_track (ht n .waiting rfl)))
  | hand n k =>
    refine ⟨.keeps rfl rfl rfl le_rfl, .of_same rfl (List.forall_mem_cons.mpr ⟨?_, ?_⟩)
      (.inl le_rfl)⟩
    · exact Thread.fits_of_hold?_eq_none rfl
    · exact List.forall_mem_singleton.mpr (Thread.fits_of_hold? rfl (ht n _ rfl))
  | @convert n k id l r converted =>
    rcases Listener.convert_cases (ht n (.accepted k) rfl) id with
      ⟨l', r', hl, hsettings, hconnections, hself, hothers⟩ | ⟨l', e, hl, -⟩
    · obtain ⟨rfl, -⟩ := Prod.mk.inj (converted.symm.trans hl)
      refine ⟨.keeps rfl hconnections rfl le_rfl, hsettings, rfl, fun m hm σ hσ => ?_, ?_,
        .inl le_rfl⟩
      · exact (hothers m (Multiset.mem_singleton.not.mp hm)).trans hσ
      · exact List.forall_mem_singleton.mpr (Thread.fits_of_hold? rfl hself)
    · cases (Prod.mk.inj (converted.symm.trans hl)).2
  | @fail n k id failed =>
    -- the job is for an accepted connection, so that a conversion without a request releases it
    rcases Listener.convert_cases (ht n (.accepted k) rfl) id with
      ⟨l', r', hl, -⟩ | ⟨l', e, hl, hreleases⟩
    · exact absurd (by rw [hl]) (failed r')
    · rw [hl]
      exact effects_of_releases rfl rfl rfl hreleases
  | abandon n k => exact effects_of_releases rfl rfl rfl (Listener.releases_abandon (ht n _ rfl))
  | answer n k deed =>
    refine ⟨.keeps rfl ?_ rfl le_rfl, ?_, rfl, fun m _ σ hσ => ?_, ?_, .inl le_rfl⟩
    · exact h.listener.connections_onLine n deed
    · exact h.listener.settings_onLine n deed
    · exact (h.listener.state?_onLine n m deed).trans hσ
    · exact List.forall_mem_singleton.mpr
        (Thread.fits_of_hold? rfl ((h.listener.state?_onLine n n deed).trans (ht n _ rfl)))
  | drop n k => exact effects_of_releases rfl rfl rfl (Listener.releases_drop (ht n _ rfl))

/-! ### The count -/

/-- Connections are numbered one after the other. -/
structure Numbered (c : Connections) : Prop where
  nodup : c.open_.Nodup
  below : ∀ k ∈ c.open_, k < c.next

theorem Numbered.track {c : Connections} (hc : Numbered c) : Numbered c.track.1 where
  nodup := hc.nodup.append (List.nodup_singleton _)
    (List.disjoint_singleton.mpr fun hmem => (hc.below _ hmem).false)
  below := fun k hk => by
    rcases List.mem_append.mp hk with hk | hk
    · exact Nat.lt_succ_of_lt (hc.below k hk)
    · rw [List.mem_singleton.mp hk]
      exact Nat.lt_succ_self _

theorem Numbered.release {c : Connections} (hc : Numbered c) (k : ℕ) :
    Numbered (c.release k).1 where
  nodup := hc.nodup.erase k
  below := fun m hm => hc.below m (List.mem_of_mem_erase hm)

theorem Booking.numbered (hb : Booking h t h' t' started)
    (hc : Numbered h.listener.connections) : Numbered h'.listener.connections := by
  cases hb with
  | keeps _ connections =>
    rw [connections]
    exact hc
  | admits same =>
    rw [same]
    exact hc
  | opens _ connections =>
    rw [connections]
    exact hc.track
  | closes k _ connections =>
    rw [connections]
    exact hc.release k

/-- The guards are those of the open connections, whatever guards the others have. -/
theorem Booking.guards (hb : Booking h t h' t' started) {rest : Multiset ℕ}
    (hrest : t.guards + rest = h.listener.connections.open_) :
    t'.guards + (started.map Thread.guards).sum + rest = h'.listener.connections.open_ := by
  cases hb with
  | keeps _ connections guards => rw [connections, guards, hrest]
  | admits same _ before after alone =>
    subst before after alone
    rw [same, ← hrest]
    rfl
  | opens _ connections before after _ _ alone =>
    subst alone
    rw [before, zero_add] at hrest
    rw [connections, after, hrest, List.map_nil, List.sum_nil, add_zero, add_comm]
    exact Multiset.coe_add _ _
  | closes k _ connections before after _ alone =>
    subst alone
    rw [before, Multiset.singleton_add] at hrest
    have herase : rest = (h.listener.connections.open_.erase k : Multiset ℕ) := by
      rw [← Multiset.coe_erase, ← hrest, Multiset.erase_cons_head]
    rw [connections, after, List.map_nil, List.sum_nil, zero_add, zero_add, herase]
    rfl

/-- The count rises and falls with the guards; it neither leaves the word nor goes below zero. -/
theorem Booking.count (hb : Booking h t h' t' started) (hguards : t.guards.card ≤ h.count.toNat)
    (hroom : h.count.toNat + t.pending < UInt64.size) :
    h'.count.toNat + t.guards.card =
      h.count.toNat + (t'.guards + (started.map Thread.guards).sum).card := by
  cases hb with
  | keeps count _ guards => rw [count, guards]
  | admits same _ before after alone =>
    subst before after alone
    rw [same]
    rfl
  | opens count _ before after used _ alone =>
    subst alone
    rw [used] at hroom
    rw [count, before, after, UInt64.toNat_add, UInt64.toNat_one, Nat.mod_eq_of_lt hroom]
    rfl
  | closes k count _ before after _ alone =>
    subst alone
    rw [before, Multiset.card_singleton] at hguards
    have hone : 1 ≤ h.count := UInt64.le_iff_toNat_le.mpr hguards
    rw [count, before, after, UInt64.toNat_sub_of_le _ _ hone,
      Multiset.card_singleton, UInt64.toNat_one, Nat.sub_add_cancel hguards]
    rfl

theorem lt_of_full_eq_false (room : h.full = false) :
    h.count.toNat < h.listener.settings.maxConnections.toNat :=
  UInt64.lt_iff_toNat_lt.mp (UInt64.not_le.mp (of_decide_eq_false room))

/-- There stays room for who is being accepted. `rest` is what others have found free. -/
theorem Booking.room (hb : Booking h t h' t' started) {rest : ℕ}
    (hguards : t.guards.card ≤ h.count.toNat)
    (hroom : h.count.toNat + (t.pending + rest) ≤ h.listener.settings.maxConnections.toNat)
    (halone : t.accepts = 1 → rest = 0) :
    h'.count.toNat + (t'.pending + (started.map Thread.pending).sum + rest) ≤
      h.listener.settings.maxConnections.toNat := by
  have hlimit := h.listener.settings.maxConnections.toNat_lt_size
  have hcount := hb.count hguards (by omega)
  cases hb with
  | keeps count _ _ pending =>
    rw [count]
    omega
  | admits same room before after alone =>
    subst before after alone
    rw [same, halone rfl]
    exact lt_of_full_eq_false room
  | opens _ _ before after used free alone =>
    subst alone
    rw [before, after] at hcount
    simp only [List.map_nil, List.sum_nil, add_zero, Multiset.card_zero,
      Multiset.card_singleton] at hcount ⊢
    omega
  | closes k _ _ before after free alone =>
    subst alone
    rw [before, after] at hcount
    simp only [List.map_nil, List.sum_nil, add_zero, Multiset.card_zero,
      Multiset.card_singleton] at hcount ⊢
    omega

/-! ### The clients -/

theorem Thread.mem_hands : n ∈ t.hands ↔ ∃ σ, t.hold? = some (n, σ) := by
  unfold Thread.hands
  cases ht : t.hold? with
  | none => simp
  | some p => simp [Prod.ext_iff, eq_comm]

theorem mem_sum_hands {threads : List Thread} :
    n ∈ (threads.map Thread.hands).sum ↔ ∃ t ∈ threads, n ∈ t.hands := by
  induction threads with
  | nil => simp
  | cons t threads ih => simp [ih]

theorem Thread.accepts_of_hold? (ht : t.hold? = some (n, .waiting)) : t.accepts = 1 := by
  cases t with
  | acceptor => rfl
  | job | output => cases (Prod.mk.inj (Option.some.inj ht)).2
  | client | done => cases ht

/-- The others see nothing of a move. -/
theorem Handling.fits_of_others (hh : Handling h t h' t' started) {rest : List Thread}
    (hnodup : (t.hands + (rest.map Thread.hands).sum).Nodup) (hu : u ∈ rest)
    (hfits : u.Fits h.listener) : u.Fits h'.listener := by
  intro n σ hn
  have hmem : n ∈ (rest.map Thread.hands).sum :=
    mem_sum_hands.mpr ⟨u, hu, Thread.mem_hands.mpr ⟨σ, hn⟩⟩
  have hdisjoint := (Multiset.nodup_add.mp hnodup).2.2
  exact hh.others n (fun ht => Multiset.disjoint_left.mp hdisjoint ht hmem) σ (hfits n σ hn)

/-- Still nobody has a client in hand that somebody else has: a client that is taken waits, and who
else would have it in hand would accept it as well. -/
theorem Handling.nodup (hh : Handling h t h' t' started) {rest : List Thread}
    (hnodup : (t.hands + (rest.map Thread.hands).sum).Nodup)
    (hfits : ∀ u ∈ rest, u.Fits h.listener)
    (halone : t.accepts = 1 → ∀ u ∈ rest, u.accepts = 0) :
    (t'.hands + (started.map Thread.hands).sum + (rest.map Thread.hands).sum).Nodup := by
  rcases hh.hands with hle | ⟨n, hn, hwaits, haccepts⟩
  · exact Multiset.nodup_of_le (by gcongr) hnodup
  · rw [hn, Multiset.singleton_add, Multiset.nodup_cons]
    refine ⟨fun hmem => ?_, (Multiset.nodup_add.mp hnodup).2.1⟩
    obtain ⟨u, hu, hnu⟩ := mem_sum_hands.mp hmem
    obtain ⟨σ, hσ⟩ := Thread.mem_hands.mp hnu
    obtain rfl : σ = .waiting := Option.some.inj ((hfits u hu n σ hσ).symm.trans hwaits)
    exact absurd (halone haccepts u hu) (by rw [Thread.accepts_of_hold? hσ]; exact one_ne_zero)

/-! ### The invariant -/

/-- What always holds at an entrance. -/
structure Sound (c : Crowd Entrance Thread) : Prop where
  numbered : Numbered c.shared.listener.connections
  /-- Every open connection has one guard, and every guard is that of an open connection. -/
  guards : (c.threads.map Thread.guards).sum = c.shared.listener.connections.open_
  count : c.shared.count.toNat = (c.threads.map Thread.guards).sum.card
  /-- The places found free are free. -/
  room : c.shared.count.toNat + (c.threads.map Thread.pending).sum ≤
    c.shared.listener.settings.maxConnections.toNat
  /-- No client is in the hands of two threads. -/
  hands : (c.threads.map Thread.hands).sum.Nodup
  fits : ∀ t ∈ c.threads, t.Fits c.shared.listener
  /-- One thread accepts, at most. -/
  accepts : (c.threads.map Thread.accepts).sum ≤ 1

/-- Who accepts does so alone. -/
theorem accepts_rest {rest : List Thread} (haccepts : t.accepts + (rest.map Thread.accepts).sum ≤ 1)
    (ht : t.accepts = 1) : ∀ u ∈ rest, u.accepts = 0 := by
  intro u hu
  have hle := List.single_le_sum (fun _ _ => Nat.zero_le _) _
    (List.mem_map_of_mem (f := Thread.accepts) hu)
  omega

theorem pending_rest {rest : List Thread} (h : ∀ u ∈ rest, u.accepts = 0) :
    (rest.map Thread.pending).sum = 0 :=
  List.sum_eq_zero fun x hx => by
    obtain ⟨u, hu, rfl⟩ := List.mem_map.mp hx
    exact Nat.le_zero.mp (u.pending_le.trans_eq (h u hu))

/-- Every move keeps the invariant. -/
theorem Sound.step {c d : Crowd Entrance Thread} (hs : Sound c) (hstep : Crowd.Step move c d) :
    Sound d := by
  obtain ⟨before, after, hm⟩ := hstep
  rename_i choice s t m
  obtain ⟨t', hself, hmoved⟩ := moved_of_move hm
  have hmem : ∀ {u}, u ∈ before ++ after → u ∈ before ++ t :: after := by
    intro u hu
    exact List.mem_append.mpr ((List.mem_append.mp hu).imp_right (List.mem_cons_of_mem t))
  have hrest : ∀ u ∈ before ++ after, u.Fits s.listener := fun u hu => hs.fits u (hmem hu)
  obtain ⟨hb, hh⟩ := hmoved.effects (hs.fits t (by simp))
  -- every total is that of the thread that moves, and a rest that stays
  have hguards := hs.guards
  have hcount := hs.count
  have hroom := hs.room
  have hhands := hs.hands
  have haccepts := hs.accepts
  simp only [Crowd.sum_map_thread] at hguards hcount hroom hhands haccepts
  have halone := accepts_rest haccepts
  rw [Multiset.card_add] at hcount
  have hlimit := s.listener.settings.maxConnections.toNat_lt_size
  have hnew := hb.count (by omega) (by omega)
  constructor
  · exact hb.numbered hs.numbered
  · rw [Crowd.sum_map_moved _ _ _ hself]
    exact hb.guards hguards
  · change m.shared.count.toNat = _
    rw [Crowd.sum_map_moved _ _ _ hself, Multiset.card_add]
    omega
  · rw [Crowd.sum_map_moved _ _ _ hself, hh.settings]
    exact hb.room (by omega) hroom fun ht => pending_rest (halone ht)
  · rw [Crowd.sum_map_moved _ _ _ hself]
    exact hh.nodup hhands hrest halone
  · -- who did not move has a client in hand that the move did not touch
    intro u hu
    simp only [hself, Option.toList_some, List.mem_append, List.mem_singleton] at hu
    rcases hu with ((hu | rfl) | hu) | hu
    · exact hh.fits_of_others hhands (List.mem_append_left _ hu) (hrest u (List.mem_append_left _ hu))
    · exact hh.fits u (by simp)
    · exact hh.fits_of_others hhands (List.mem_append_right _ hu)
        (hrest u (List.mem_append_right _ hu))
    · exact hh.fits u (List.mem_cons_of_mem _ hu)
  · rw [Crowd.sum_map_moved _ _ _ hself, hh.accepts]
    exact haccepts

/-- A listener that nobody has used yet: clients will connect, and at most one thread accepts. -/
structure Opening (c : Crowd Entrance Thread) : Prop where
  fresh : c.shared.listener.connections = {}
  count : c.shared.count = 0
  threads : ∀ t ∈ c.threads, (∃ s, t = .client s) ∨ t = .acceptor .looking
  alone : (c.threads.map Thread.accepts).sum ≤ 1

theorem Opening.sum_eq_zero {M : Type} [AddCommMonoid M] {c : Crowd Entrance Thread}
    (hc : Opening c) (f : Thread → M) (hclient : ∀ s, f (.client s) = 0)
    (hlooking : f (.acceptor .looking) = 0) : (c.threads.map f).sum = 0 := by
  have hzero : ∀ t ∈ c.threads, f t = 0 := by
    intro t ht
    rcases hc.threads t ht with ⟨s, rfl⟩ | rfl
    · exact hclient s
    · exact hlooking
  rw [List.map_eq_replicate_iff.mpr hzero, List.sum_replicate, smul_zero]

theorem Opening.sound {c : Crowd Entrance Thread} (hc : Opening c) : Sound c where
  numbered := by
    rw [hc.fresh]
    exact ⟨List.nodup_nil, fun k hk => by cases hk⟩
  guards := by
    rw [hc.fresh]
    exact hc.sum_eq_zero _ (fun _ => rfl) rfl
  count := by
    rw [hc.count, hc.sum_eq_zero Thread.guards (fun _ => rfl) rfl]
    rfl
  room := by
    rw [hc.count, hc.sum_eq_zero Thread.pending (fun _ => rfl) rfl]
    exact Nat.zero_le _
  hands := by
    rw [hc.sum_eq_zero Thread.hands (fun _ => rfl) rfl]
    exact Multiset.nodup_zero
  fits := fun t ht => by
    rcases hc.threads t ht with ⟨s, rfl⟩ | rfl
    · exact Thread.fits_of_hold?_eq_none rfl
    · exact Thread.fits_of_hold?_eq_none rfl
  accepts := hc.alone

theorem sound_of_reaches {c d : Crowd Entrance Thread} (hc : Opening c)
    (hreaches : Crowd.Reaches move c d) : Sound d :=
  hreaches.keeps hc.sound fun hstep hs => hs.step hstep

/-- Nobody changes the settings. -/
theorem settings_of_reaches {c d : Crowd Entrance Thread} (hc : Opening c)
    (hreaches : Crowd.Reaches move c d) :
    d.shared.listener.settings = c.shared.listener.settings := by
  induction hreaches with
  | refl => rfl
  | tail hd hstep ih =>
    obtain ⟨before, after, hm⟩ := hstep
    obtain ⟨t', -, hmoved⟩ := moved_of_move hm
    exact (hmoved.effects ((sound_of_reaches hc hd).fits _ (by simp))).2.settings.trans ih

theorem Sound.card_guards_le {c : Crowd Entrance Thread} (hs : Sound c) (ht : t ∈ c.threads) :
    t.guards.card ≤ c.shared.count.toNat := by
  obtain ⟨before, after, hsplit⟩ := List.append_of_mem ht
  rw [hs.count, hsplit, Crowd.sum_map_thread, Multiset.card_add]
  exact Nat.le_add_right _ _

theorem Sound.pending_le {c : Crowd Entrance Thread} (hs : Sound c) (ht : t ∈ c.threads) :
    c.shared.count.toNat + t.pending ≤ c.shared.listener.settings.maxConnections.toNat := by
  obtain ⟨before, after, hsplit⟩ := List.append_of_mem ht
  have hroom := hs.room
  rw [hsplit, Crowd.sum_map_thread] at hroom
  omega

/-- A move changes the count as it changes the number of guards. -/
theorem Sound.count_moved {c : Crowd Entrance Thread} (hs : Sound c) (ht : t ∈ c.threads)
    (hm : move choice c.shared t = some m) :
    m.shared.count.toNat + t.hasGuard.toNat =
      c.shared.count.toNat + (m.self.toList ++ m.started).countP Thread.hasGuard := by
  obtain ⟨t', hself, hmoved⟩ := moved_of_move hm
  have hlimit := c.shared.listener.settings.maxConnections.toNat_lt_size
  have hcount := (hmoved.effects (hs.fits t ht)).1.count (hs.card_guards_le ht)
    ((hs.pending_le ht).trans_lt hlimit)
  rw [← t.card_guards, ← card_sum_guards, hself]
  simpa using hcount

/-- **The limit on connections.** However the moves of those who accept, convert, answer and let go
of connections interleave: every open connection has one guard, in the hands of one thread, and the
count is the number of the guards. It never exceeds the limit, and no move takes it below zero or
beyond the word, for it changes just as the guards do. Where the socket of a client cannot be
prepared, it stays as it is; and it is zero as soon as nobody has a guard. -/
theorem counts_guards {c d : Crowd Entrance Thread} (hc : Opening c)
    (hreaches : Crowd.Reaches move c d) :
    d.shared.listener.connections.open_.Nodup ∧
    (d.threads.map Thread.guards).sum = d.shared.listener.connections.open_ ∧
    d.shared.count.toNat = d.threads.countP Thread.hasGuard ∧
    d.shared.count.toNat = d.shared.listener.active ∧
    d.shared.count ≤ c.shared.listener.settings.maxConnections ∧
    (∀ choice m, ∀ t ∈ d.threads, move choice d.shared t = some m →
      m.shared.count.toNat + t.hasGuard.toNat =
        d.shared.count.toNat + (m.self.toList ++ m.started).countP Thread.hasGuard) ∧
    (∀ choice m n, .acceptor (.preparing n) ∈ d.threads →
      move choice d.shared (.acceptor (.preparing n)) = some m →
      m.shared.count = d.shared.count ∧
        m.shared.listener.connections = d.shared.listener.connections) ∧
    (d.shared.count = 0 ↔ ∀ t ∈ d.threads, t.hasGuard = false) := by
  have hs := sound_of_reaches hc hreaches
  have hcount : d.shared.count.toNat = d.threads.countP Thread.hasGuard := by
    rw [hs.count, card_sum_guards]
  refine ⟨hs.numbered.nodup, hs.guards, hcount, ?_, ?_, fun choice m t ht hm => hs.count_moved ht hm,
    fun choice m n _ hm => ?_, ?_⟩
  · rw [hs.count, hs.guards]
    exact Multiset.coe_card _
  · rw [UInt64.le_iff_toNat_le, ← settings_of_reaches hc hreaches]
    exact le_of_add_le_left hs.room
  · obtain ⟨t', -, hmoved⟩ := moved_of_move hm
    generalize m.shared = h, m.started = started at hmoved
    cases hmoved with
    | lose | prepare => exact ⟨rfl, rfl⟩
  · rw [← UInt64.toNat_inj, hcount, UInt64.toNat_zero, List.countP_eq_zero]
    simp only [Bool.not_eq_true]

/-- Two clients and room for one. -/
def sample : Crowd Entrance Thread :=
  ⟨{ listener := { settings := { maxConnections := 1 }, address := default } },
    [.client {}, .client {}, .acceptor .looking]⟩

/-- Both connect, and the first is accepted. -/
def sampleRun : Crowd Entrance Thread :=
  (sample.follow move { id := default } [0, 1, 2, 2, 2, 2, 2, 2]).2

/-- The job of the first client has the only guard, and the second is not accepted as long as the
first is there. -/
theorem counts_guards_sample :
    sampleRun.threads = [.done, .done, .acceptor .looking, .job 0 1] ∧
      sampleRun.shared.count.toNat = sampleRun.threads.countP Thread.hasGuard ∧
      sampleRun.shared.count ≤ sample.shared.listener.settings.maxConnections ∧
      ¬ sampleRun.shared.count = 0 := by
  have hopening : Opening sample :=
    ⟨rfl, rfl, by simp [sample], by simp [sample, Thread.accepts]⟩
  have hreaches : Crowd.Reaches move sample sampleRun :=
    Crowd.reaches_iff_exists_run.mpr ⟨_, Crowd.run_follow ..⟩
  have hthreads : sampleRun.threads = [.done, .done, .acceptor .looking, .job 0 1] := rfl
  obtain ⟨-, -, hcount, -, hlimit, -, -, hzero⟩ := counts_guards hopening hreaches
  refine ⟨hthreads, hcount, hlimit, fun h => ?_⟩
  have hjob := hzero.mp h (.job 0 1) (by simp [hthreads])
  cases hjob

/-! ### Without interruption -/

/-- Accepting, piece by piece. -/
theorem accept_eq (l : Listener) : l.accept =
    if l.connections.full l.settings.maxConnections.toNat then (l, .nobody)
    else match l.waiting? with
      | none => (l, .nobody)
      | some n =>
        if l.settings.readTimeoutMs = 0 then (l.lose n, .failed) else ((l.track n).1, .job n) :=
  rfl

theorem full_eq (hcount : h.count.toNat = h.listener.active) :
    h.listener.connections.full h.listener.settings.maxConnections.toNat = h.full :=
  decide_eq_decide.mpr (by rw [UInt64.le_iff_toNat_le, hcount]; rfl)

/-- Who is given the connection that was accepted. -/
def jobs (l : Listener) : Listener.Accepted → List Thread
  | .job n => [.job n l.connections.next]
  | .nobody | .failed => []

/-- One more move of the same thread. -/
theorem reaches_move {c : Crowd Entrance Thread} {before after : List Thread}
    (hreaches : Crowd.Reaches move c ⟨h, before ++ t :: after⟩)
    (hm : move choice h t = some ⟨h', some t', started⟩) :
    Crowd.Reaches move c ⟨h', before ++ t' :: (after ++ started)⟩ := by
  simpa using hreaches.tail (.of before after hm)

/-- Someone who accepts, and whom nobody interrupts, does what `Listener.accept` does, and raises
the count if a job is handed out. -/
theorem reaches_accept (before after : List Thread) (id : RequestId)
    (hcount : h.count.toNat = h.listener.active) :
    Crowd.Reaches move ⟨h, before ++ .acceptor .looking :: after⟩
      ⟨{ listener := h.listener.accept.1,
         count := h.count + .ofNat (jobs h.listener h.listener.accept.2).length },
        before ++ .acceptor .looking :: (after ++ jobs h.listener h.listener.accept.2)⟩ := by
  let choice : Choice := { id }
  cases hroom : h.full with
  | true =>
    have haccept : h.listener.accept = (h.listener, .nobody) := by
      rw [accept_eq, full_eq hcount, hroom]
      rfl
    have hlooked : move choice h (.acceptor .looking) =
        some ⟨h, some (.acceptor .looking), []⟩ := by
      simp [choice, move, moveAcceptor, hroom, Move.goOn]
    simpa [haccept, jobs] using reaches_move .refl hlooked
  | false =>
    have hlooked : move choice h (.acceptor .looking) =
        some ⟨h, some (.acceptor .taking), []⟩ := by
      simp [choice, move, moveAcceptor, hroom, Move.goOn]
    have htaking : Crowd.Reaches move ⟨h, before ++ .acceptor .looking :: after⟩
        ⟨h, before ++ .acceptor .taking :: (after ++ [])⟩ := reaches_move .refl hlooked
    cases hwaits : h.listener.waiting? with
    | none =>
      have haccept : h.listener.accept = (h.listener, .nobody) := by
        rw [accept_eq, full_eq hcount, hroom, hwaits]
        rfl
      have htook : move choice h (.acceptor .taking) =
          some ⟨h, some (.acceptor .looking), []⟩ := by
        simp [move, moveAcceptor, hwaits, Move.goOn]
      simpa [haccept, jobs] using reaches_move htaking htook
    | some n =>
      have htook : move choice h (.acceptor .taking) =
          some ⟨h, some (.acceptor (.preparing n)), []⟩ := by
        simp [choice, move, moveAcceptor, hwaits, Move.goOn]
      have hpreparing := reaches_move htaking htook
      by_cases htime : h.listener.settings.readTimeoutMs = 0
      · have haccept : h.listener.accept = (h.listener.lose n, .failed) := by
          rw [accept_eq, full_eq hcount, hroom, hwaits]
          exact if_pos htime
        have hlost : move choice h (.acceptor (.preparing n)) =
            some ⟨{ h with listener := h.listener.lose n }, some (.acceptor .looking), []⟩ := by
          simp [move, moveAcceptor, htime, Move.goOn]
        simpa [haccept, jobs] using reaches_move hpreparing hlost
      · have haccept : h.listener.accept = ((h.listener.track n).1, .job n) := by
          rw [accept_eq, full_eq hcount, hroom, hwaits]
          exact if_neg htime
        have hprepared : move choice h (.acceptor (.preparing n)) =
            some ⟨h, some (.acceptor (.tracking n)), []⟩ := by
          simp [choice, move, moveAcceptor, htime, Move.goOn]
        let counted : Entrance := { listener := (h.listener.track n).1, count := h.count + 1 }
        let k := h.listener.connections.next
        have htracked : move choice h (.acceptor (.tracking n)) =
            some ⟨counted, some (.acceptor (.handing n k)), []⟩ := rfl
        have hhanded : move choice counted (.acceptor (.handing n k)) =
            some ⟨counted, some (.acceptor .looking), [.job n k]⟩ := rfl
        have hthrough := reaches_move (reaches_move (reaches_move hpreparing hprepared) htracked)
          hhanded
        simpa [haccept, jobs, counted, k] using hthrough

end Entrance

end Switchboard
