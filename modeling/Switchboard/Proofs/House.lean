import Switchboard.Pipeline.Course
import Switchboard.Proofs.Gate
import Switchboard.Proofs.Record
import Switchboard.Proofs.Roster
import Switchboard.Proofs.Route

/-!
# A house in order

What is answered depends on the list that the gate keeps, on the templates that serve the commands,
and on the memo of routes. While the list does not expire, none of it changes in any way that
matters: `Engine.Opening.steady` says that at any time of a run sources are admitted, paths resolved
and commands served just as at the beginning.
-/

namespace Switchboard

variable {i : Chance} {p p' p₀ q : Pipeline} {t : Thread} {done due rest : Multiset Errand}
  {list : AllowList}

/-! ### What a deed changes in the house -/

/-- What a deed does to the gate, the memo and the roster: nothing, or it asks the gate, or it
takes an instance for a path. -/
inductive Deed.Touches (i : Chance) (p : Pipeline) (t : Thread) (q : Pipeline) : Prop where
  | nothing (gate : q.gate = p.gate) (memo : q.memo = p.memo) (roster : q.roster = p.roster)
  | asks (source : String)
    (gate : q.gate = (p.gate.allow i.moments source p.reverseLookup p.caseSensitive).1)
    (memo : q.memo = p.memo) (roster : q.roster = p.roster)
  | takes (path : String) (ht : t.taking? = some path) (gate : q.gate = p.gate)
    (memo : q.memo = (p.memo.resolve p.roster path).1)
    (roster : q.roster =
      (p.roster.take ((p.memo.resolve p.roster path).2.getD defaultCommand)).1)

namespace Deed

theorem touches_of_still {p' : Pipeline} (h : q.still = p'.still) (gate : p'.gate = p.gate)
    (memo : p'.memo = p.memo) (roster : p'.roster = p.roster) : Touches i p t q :=
  .nothing ((congrArg Pipeline.gate h :).trans gate) ((congrArg Pipeline.memo h :).trans memo)
    ((congrArg Pipeline.roster h :).trans roster)

theorem touches_of_dispatch {t : Task} {x : Exchange} {memo : RouteMemo} {found : Option String}
    {roster : Roster} {taken : Roster.Taken} {p' : Pipeline} (ht : t.phase = .running)
    (he : t.event = .dispatch x) (resolved : p.memo.resolve p.roster x.request.path = (memo, found))
    (took : p.roster.take (found.getD defaultCommand) = (roster, taken))
    (h : q.still = p'.still) (hgate : p'.gate = p.gate) (hmemo : p'.memo = memo)
    (hroster : p'.roster = roster) : Touches i p (.task t) q := by
  refine .takes x.request.path ?_ ((congrArg Pipeline.gate h :).trans hgate) ?_ ?_
  · obtain ⟨e, observers, phase⟩ := t
    obtain rfl : phase = .running := ht
    obtain rfl : e = .dispatch x := he
    rfl
  · rw [resolved]
    exact (congrArg Pipeline.memo h :).trans hmemo
  · rw [resolved, took]
    exact (congrArg Pipeline.roster h :).trans hroster

theorem touches (h : Deed i p t done due q) : Touches i p t q := by
  cases h with
  | drop closed same hq =>
    rw [Pipeline.foldl_release] at hq
    exact touches_of_still hq rfl rfl rfl
  | convert ht he awaited run hq =>
    rename Conversion => result
    cases result <;> exact touches_of_still hq rfl rfl rfl
  | convertInVain ht he left run hq =>
    rename Conversion => result
    cases result <;> exact touches_of_still hq rfl rfl rfl
  | handle ht he run hq =>
    rename HandlerEnd => e
    cases e <;> exact touches_of_still hq rfl rfl rfl
  | deny ht he ready asked hq | grant ht he ready asked hq =>
    rename Exchange => x
    refine .asks x.request.source ((congrArg Pipeline.gate hq :).trans ?_)
      (congrArg Pipeline.memo hq :) (congrArg Pipeline.roster hq :)
    rw [asked]
    rfl
  | noRoute ht he resolved taken hq | die ht he resolved taken hq
  | dispatch ht he resolved taken hq =>
    exact touches_of_dispatch ht he resolved taken hq rfl rfl rfl
  | _ =>
    rename_i hq
    exact touches_of_still hq rfl rfl rfl

end Deed

/-! ### Order -/

/-- The copies of every template behave alike. -/
def Roster.Uniform (r : Roster) : Prop := ∀ t ∈ r.templates.map Prod.fst, t.Uniform

/-- A house is in order: the gate keeps this list, the stock of handlers is in order, making copies
never panics, copies behave alike, and the memo remembers nothing wrong. -/
structure Pipeline.InOrder (p : Pipeline) (list : AllowList) : Prop where
  kept : p.gate.current = some list
  stocked : p.roster.Stocked
  reliable : p.roster.Reliable
  uniform : p.roster.Uniform
  memo : p.memo.Sound p.roster

/-- A house is in order and answers just as another one. -/
structure Pipeline.Steady (p₀ : Pipeline) (list : AllowList) (p : Pipeline) : Prop where
  order : p.InOrder list
  hosts : p.gate.hosts = p₀.gate.hosts
  manners : p.manners = p₀.manners
  alike : p₀.roster.Alike p.roster

theorem RouteMemo.Sound.of_alike {m : RouteMemo} {r r' : Roster} (h : m.Sound r)
    (halike : r.Alike r') : m.Sound r' where
  generation_le := halike.generation ▸ h.generation_le
  answers := by
    rw [halike.generation, halike.contains]
    exact h.answers

theorem Pipeline.InOrder.steady (h : p.InOrder list) : p.Steady list p :=
  ⟨h, rfl, rfl, .refl p.roster⟩

/-- A deed leaves a house in order, and it goes on answering as before. -/
theorem Deed.steady (h : Deed i p t done due q) (hs : p₀.Steady list p)
    (spare : i.moments.Spare list) : p₀.Steady list q := by
  obtain ⟨⟨kept, stocked, reliable, uniform, memo⟩, hosts, manners, alike⟩ := hs
  have manners := h.manners_eq.trans manners
  cases h.touches with
  | nothing hgate hmemo hroster =>
    refine ⟨⟨?_, ?_, ?_, ?_, ?_⟩, ?_, manners, ?_⟩
    all_goals simpa only [hgate, hmemo, hroster]
  | asks source hgate hmemo hroster =>
    obtain ⟨hcurrent, hhosts, -⟩ := Gate.allow_of_kept kept spare source p.reverseLookup
      p.caseSensitive
    rw [← hgate] at hcurrent hhosts
    refine ⟨⟨hcurrent, ?_, ?_, ?_, ?_⟩, hhosts.trans hosts, manners, ?_⟩
    all_goals simpa only [hmemo, hroster]
  | takes path ht hgate hmemo hroster =>
    obtain ⟨halike, hstocked, -⟩ :=
      stocked.take ((p.memo.resolve p.roster path).2.getD defaultCommand)
    rw [← hroster] at halike hstocked
    refine ⟨⟨?_, hstocked, halike.reliable reliable, ?_, ?_⟩, ?_, manners, alike.trans halike⟩
    · rw [hgate, kept]
    · rw [Roster.Uniform, halike.templates]
      exact uniform
    · rw [hmemo]
      exact (memo.resolve path).1.of_alike halike
    · rw [hgate, hosts]

/-! ### Answers -/

namespace Pipeline.Steady

variable (hs : p₀.Steady list p)

include hs

/-- Sources are admitted by the list, -/
theorem allow {moments : Moments} (spare : moments.Spare list) (source : String) :
    (p.gate.allow moments source p.reverseLookup p.caseSensitive).2 =
      (House.ofPipeline p₀ list).admits source := by
  obtain ⟨-, -, hanswer⟩ := Gate.allow_of_kept hs.order.kept spare source p.reverseLookup
    p.caseSensitive
  have hreverse : p.reverseLookup = p₀.reverseLookup := congrArg (fun m => m.2.1) hs.manners
  have hsensitive : p.caseSensitive = p₀.caseSensitive := congrArg (fun m => m.2.2.1) hs.manners
  rw [hanswer, Gate.snd_check_congr hs.hosts, hreverse, hsensitive]
  rfl

/-- paths are resolved by the rule, -/
theorem resolve (path : String) :
    (p.memo.resolve p.roster path).2 = Route.lookup p₀.roster.contains path := by
  rw [(hs.order.memo.resolve path).2, hs.alike.contains]

/-- commands are served by their templates, -/
theorem take (command : String) :
    (p₀.roster.served? command = none → (p.roster.take command).2 = .unserved) ∧
      ∀ n, p₀.roster.served? command = some n →
        ∃ i, (p.roster.take command).2 = .handed i ∧ i.template = n := by
  rw [← hs.alike.served? command]
  exact (hs.order.stocked.take command).2.2 hs.order.reliable

/-- and any copy of a template does what the first one would have done. -/
theorem run (inst : Instance) (request : Request) :
    (p.roster.run inst request).2 =
      (p₀.roster.run { template := inst.template, number := 1 } request).2 := by
  rw [Roster.snd_run, Roster.snd_run, ← hs.alike.templates]
  cases ht : (p.roster.templates.map Prod.fst)[inst.template]? with
  | none => rfl
  | some t =>
    obtain ⟨f, hf⟩ := hs.order.uniform t (List.mem_of_getElem? ht)
    simp only [Option.map_some, hf]

end Pipeline.Steady

/-! ### At any time of a run -/

namespace Engine.Opening

variable {g d : Engine} {turns : List (Turn Chance Pipeline Thread)}

/-- A house that is in order at the beginning, with a list that does not expire, answers every turn
as it would have answered at the beginning. -/
theorem steady (h : g.Opening) (order : g.shared.InOrder list)
    (run : Crowd.Run Thread.move g turns d) (spare : ∀ u ∈ turns, u.chance.moments.Spare list) :
    ∀ u ∈ turns, g.shared.Steady list u.before := by
  suffices hP : (∀ u ∈ turns, u.chance.moments.Spare list) → g.shared.Steady list d.shared ∧
      ∀ u ∈ turns, g.shared.Steady list u.before from (hP spare).2
  refine h.induct (P := fun turns p _ => (∀ u ∈ turns, u.chance.moments.Spare list) →
    g.shared.Steady list p ∧ ∀ u ∈ turns, g.shared.Steady list u.before) ?_ ?_ run
  · exact fun _ => ⟨order.steady, by simp⟩
  · intro turns i p t q done due rest _ _ hdeed ih hspare
    simp only [List.forall_mem_append, List.forall_mem_singleton] at hspare ⊢
    obtain ⟨hp, hturns⟩ := ih hspare.1
    exact ⟨hdeed.steady hp hspare.2, hturns, hp⟩

/-- Before nobody has begun to shut the pipeline down, nobody had. -/
theorem open_before (h : g.Opening) (run : Crowd.Run Thread.move g turns d)
    (quiet : d.shared.Open) : ∀ u ∈ turns, u.before.Open := by
  refine h.induct (P := fun turns p _ => p.Open → ∀ u ∈ turns, u.before.Open) ?_ ?_ run quiet
  · simp
  · intro turns i p t q done due rest hadv _ _ ih hq
    simp only [List.forall_mem_append, List.forall_mem_singleton]
    exact ⟨ih (hadv.open_left hq), hadv.open_left hq⟩

/-- Only who takes an instance touches the roster. -/
theorem roster_eq (h : g.Opening) (run : Crowd.Run Thread.move g turns d) :
    ∀ u ∈ turns, u.thread.taking? = none → u.after.roster = u.before.roster := by
  refine h.induct (P := fun turns _ _ => ∀ u ∈ turns, u.thread.taking? = none →
    u.after.roster = u.before.roster) ?_ ?_ run
  · simp
  · intro turns i p t q done due rest _ _ hdeed ih
    simp only [List.forall_mem_append, List.forall_mem_singleton]
    refine ⟨ih, fun ht => ?_⟩
    cases hdeed.touches with
    | nothing _ _ hroster | asks _ _ _ hroster => exact hroster
    | takes path hpath =>
      rw [hpath] at ht
      cases ht

end Engine.Opening

end Switchboard
