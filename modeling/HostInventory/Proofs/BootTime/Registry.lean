import HostInventory.BootTime.Keepers
import HostInventory.Proofs.Action
import Mathlib.Data.List.Forall2
import Mathlib.Data.List.Nodup

/-!
Who tells which boot time in a run of a registry. An engine that was given chains or a clock keeps
a boot time of its own, and the engines that were given neither share one until it is cleared: what
a keeper tells depends on nothing but what it told before.
-/
namespace HostInventory.Registry

variable {σ : Type} {known : Keeper → Option Int} {oracles : List (SharedOracle σ)}
  {holders : List (Keeper × Action σ Int)} {keeper : Keeper} {query : Action σ Int} {number : Nat}

/-- The oracles in the order in which they were made, each with its keeper: an oracle knows what its
keeper has told. -/
structure Held (known : Keeper → Option Int) (oracles : List (SharedOracle σ))
    (holders : List (Keeper × Action σ Int)) : Prop where
  distinct : (holders.map (·.1)).Nodup
  each : oracles = holders.map fun holder => ⟨holder.2, known holder.1⟩
  others : ∀ keeper, keeper ∉ holders.map (·.1) → known keeper = none

theorem getElem?_append_some {α : Type} {xs : List α} {x : α} (found : xs[number]? = some x)
    (more : List α) : (xs ++ more)[number]? = some x := by
  rw [List.getElem?_append_left (List.getElem?_eq_some_iff.mp found).1]
  exact found

theorem length_le_append {α : Type} (xs ys : List α) : xs.length ≤ (xs ++ ys).length :=
  (List.prefix_append xs ys).length_le

theorem getElem?_of_forall₂ {numbers : List Nat} {kept : List (Keeper × Action σ Int)}
    (alike : List.Forall₂ (fun number holder => holders[number]? = some holder) numbers kept)
    (number : Nat) :
    (numbers[number]? = none ∧ kept[number]? = none) ∨
      ∃ oracle holder, numbers[number]? = some oracle ∧ kept[number]? = some holder ∧
        holders[oracle]? = some holder := by
  induction alike generalizing number with
  | nil => exact .inl ⟨rfl, rfl⟩
  | @cons oracle holder numbers kept found rest ih =>
    cases number with
    | zero => exact .inr ⟨oracle, holder, rfl, rfl, found⟩
    | succ number => exact ih number

namespace Held

theorem getElem? (held : Held known oracles holders)
    (found : holders[number]? = some (keeper, query)) :
    oracles[number]? = some ⟨query, known keeper⟩ := by
  rw [held.each, List.getElem?_map, found]
  rfl

theorem append (held : Held known oracles holders) (new : keeper ∉ holders.map (·.1))
    (query : Action σ Int) :
    Held known (oracles ++ [⟨query, none⟩]) (holders ++ [(keeper, query)]) where
  distinct := by
    rw [List.map_append, List.map_singleton]
    exact held.distinct.append (List.nodup_singleton keeper)
      (List.disjoint_singleton.mpr new)
  each := by
    rw [List.map_append, ← held.each]
    rw [List.map_singleton, held.others keeper new]
  others := by
    intro other absent
    refine held.others other fun present => absent ?_
    rw [List.map_append]
    exact List.mem_append_left _ present

theorem tell {known' : Keeper → Option Int} (held : Held known oracles holders)
    (found : holders[number]? = some (keeper, query))
    (others : ∀ other, other ≠ keeper → known' other = known other) :
    Held known' (oracles.set number ⟨query, known' keeper⟩) holders where
  distinct := held.distinct
  each := by
    obtain ⟨inside, here⟩ := List.getElem?_eq_some_iff.mp found
    rw [held.each]
    refine List.ext_getElem (by simp only [List.length_set, List.length_map]) ?_
    intro place left right
    rw [List.length_map] at right
    rw [List.getElem_set, List.getElem_map, List.getElem_map]
    by_cases same : number = place
    · subst same
      rw [if_pos rfl, here]
    · have apart : holders[place].1 ≠ keeper := by
        intro equal
        have one : holders[number] = holders[place] :=
          List.inj_on_of_nodup_map held.distinct (List.getElem_mem _) (List.getElem_mem _)
            (by rw [here, equal])
        exact same ((held.distinct.of_map _).getElem_inj_iff.mp one)
      rw [if_neg same, others _ apart]
  others := by
    intro other absent
    have different : other ≠ keeper := by
      rintro rfl
      exact absent (List.mem_map.mpr ⟨_, List.mem_of_getElem? found, rfl⟩)
    rw [others other different]
    exact held.others other absent

end Held

variable {past : Past σ}

/-- Whether a keeper can have come about by now. -/
def Keeper.IsPast (past : Past σ) : Keeper → Prop
  | .shared clears => clears ≤ past.clears
  | .engine number => number < past.engines.length

theorem Keeper.IsPast.mono {keeper : Keeper} {later : Past σ} (isPast : keeper.IsPast past)
    (clears : past.clears ≤ later.clears) (engines : past.engines.length ≤ later.engines.length) :
    keeper.IsPast later := by
  cases keeper with
  | shared number => exact Nat.le_trans isPast clears
  | engine number => exact Nat.lt_of_lt_of_le isPast engines

namespace Exchange

variable {exchange : Exchange σ}

theorem toldBy_asked (asked : exchange.asked = some (keeper, query)) :
    exchange.toldBy keeper = exchange.outcome.toOption.join := by
  rw [toldBy, asked]
  exact if_pos rfl

theorem toldBy_other {other : Keeper} (asked : exchange.asked = some (keeper, query))
    (different : other ≠ keeper) : exchange.toldBy other = none := by
  rw [toldBy, asked]
  exact if_neg fun same => different (Option.some.inj same).symm

theorem toldBy_nobody (asked : exchange.asked = none) (keeper : Keeper) :
    exchange.toldBy keeper = none := by
  rw [toldBy, asked]
  exact if_neg nofun

theorem asked_of_toldBy {bootTime : Int} (told : exchange.toldBy keeper = some bootTime) :
    ∃ query, exchange.asked = some (keeper, query) := by
  rw [toldBy] at told
  split at told
  next asked =>
    obtain ⟨⟨_, query⟩, isAsked, rfl⟩ := Option.map_eq_some_iff.mp asked
    exact ⟨query, isAsked⟩
  next => cases told

theorem join_toOption_map (outcome : Except Failure Int) :
    (outcome.map some).toOption.join = outcome.toOption := by
  cases outcome with
  | ok bootTime => rfl
  | error failure => rfl

def learnt (exchange : Exchange σ) (known : Keeper → Option Int) (keeper : Keeper) :
    Option Int :=
  (known keeper).or (exchange.toldBy keeper)

theorem learnt_nobody (asked : exchange.asked = none) :
    exchange.learnt known = known := by
  funext keeper
  rw [learnt, toldBy_nobody asked, Option.or_none]

/-- An exchange in which the keeper that is asked tells what it has told before, and queries only if
that is nothing. -/
structure Answers (known : Keeper → Option Int) (exchange : Exchange σ) : Prop where
  silent : exchange.asked = none → exchange.outcome = .ok none ∧ exchange.left = exchange.world
  told : ∀ keeper query, exchange.asked = some (keeper, query) →
    exchange.outcome = (((known keeper).elim query pure).perform exchange.world).1.map some ∧
      exchange.left = (((known keeper).elim query pure).perform exchange.world).2

theorem Answers.of_nobody (asked : exchange.asked = none) (outcome : exchange.outcome = .ok none)
    (left : exchange.left = exchange.world) (known : Keeper → Option Int) :
    exchange.Answers known where
  silent _ := ⟨outcome, left⟩
  told keeper query isAsked := by cases asked.symm.trans isAsked

end Exchange

/-- What the exchanges of a run have to do with each other. -/
structure KeptApart (exchanges : List (Exchange σ)) : Prop where
  /-- All boot times that one keeper tells are one. -/
  one : ∀ keeper, ∀ first ∈ exchanges, ∀ second ∈ exchanges, ∀ bootTime other,
    first.toldBy keeper = some bootTime → second.toldBy keeper = some other → bootTime = other
  /-- Once its keeper has told a boot time, who asks for it is told the same, and nothing is asked
  of the world. -/
  settled : ∀ earlier exchange later keeper query, exchanges = earlier ++ exchange :: later →
    exchange.asked = some (keeper, query) →
    ∀ told ∈ earlier, ∀ bootTime, told.toldBy keeper = some bootTime →
      exchange.outcome = .ok (some bootTime) ∧ exchange.left = exchange.world
  /-- Until then the keeper asks the world its own way, whatever other keepers have told. -/
  unsettled : ∀ earlier exchange later keeper query, exchanges = earlier ++ exchange :: later →
    exchange.asked = some (keeper, query) → (∀ told ∈ earlier, told.toldBy keeper = none) →
    exchange.outcome = (query.perform exchange.world).1.map some ∧
      exchange.left = (query.perform exchange.world).2
  /-- What asks for no boot time tells none, and asks nothing of the world. -/
  silent : ∀ exchange ∈ exchanges, exchange.asked = none →
    exchange.outcome = .ok none ∧ exchange.left = exchange.world

/-- Exchanges of which each is answered from those before it. -/
def AnsweredInTurn (exchanges : List (Exchange σ)) : Prop :=
  ∀ earlier exchange later, exchanges = earlier ++ exchange :: later →
    exchange.Answers fun keeper => earlier.findSome? (Exchange.toldBy keeper)

namespace AnsweredInTurn

variable {exchanges earlier later : List (Exchange σ)} {exchange : Exchange σ} {bootTime : Int}

theorem settled (answered : AnsweredInTurn exchanges)
    (place : exchanges = earlier ++ exchange :: later)
    (asked : exchange.asked = some (keeper, query))
    (told : earlier.findSome? (Exchange.toldBy keeper) = some bootTime) :
    exchange.outcome = .ok (some bootTime) ∧ exchange.left = exchange.world := by
  have answers := (answered earlier exchange later place).told keeper query asked
  rwa [told] at answers

theorem findSome?_eq (answered : AnsweredInTurn exchanges) (mem : exchange ∈ exchanges)
    (told : exchange.toldBy keeper = some bootTime) :
    exchanges.findSome? (Exchange.toldBy keeper) = some bootTime := by
  obtain ⟨earlier, later, place⟩ := List.append_of_mem mem
  rw [place, List.findSome?_append]
  cases before : earlier.findSome? (Exchange.toldBy keeper) with
  | none =>
    rw [List.findSome?_cons_of_isSome (by rw [told]; rfl), told]
    rfl
  | some first =>
    obtain ⟨query, asked⟩ := Exchange.asked_of_toldBy told
    have same := (answered.settled place asked before).1
    rw [Exchange.toldBy_asked asked, same] at told
    exact told

theorem one (answered : AnsweredInTurn exchanges) {second : Exchange σ} {other : Int}
    (mem : exchange ∈ exchanges) (secondMem : second ∈ exchanges)
    (told : exchange.toldBy keeper = some bootTime) (secondTold : second.toldBy keeper = some other) :
    bootTime = other :=
  Option.some.inj ((answered.findSome?_eq mem told).symm.trans
    (answered.findSome?_eq secondMem secondTold))

end AnsweredInTurn

theorem perform_askOracle {registry : Registry σ} {oracle : SharedOracle σ}
    (found : registry.oracles[number]? = some oracle) (world : σ) :
    (askOracle number).perform (registry, world) =
      ((oracle.query.once.perform (oracle.known, world)).1.map some,
        { registry with
          oracles := registry.oracles.set number
            { oracle with known := (oracle.query.once.perform (oracle.known, world)).2.1 } },
        (oracle.query.once.perform (oracle.known, world)).2.2) := by
  unfold askOracle Action.perform ExceptT.run ExceptT.mk StateT.run
  dsimp only
  rw [found]
  rfl

variable [Journal σ] {host : HostTimes σ} {registry : Registry σ}

/-- What the orders so far decide, and what the registry has made of them. -/
structure Inv (host : HostTimes σ) (past : Past σ) (known : Keeper → Option Int)
    (registry : Registry σ) (holders : List (Keeper × Action σ Int)) : Prop where
  held : Held known registry.oracles holders
  engines : List.Forall₂ (fun number holder => holders[number]? = some holder)
    registry.engines past.engines
  shared : ∀ number, registry.shared = some number →
    holders[number]? = some (.shared past.clears, host.query)
  unshared : registry.shared = none → .shared past.clears ∉ holders.map (·.1)
  earlier : ∀ keeper ∈ holders.map (·.1), keeper.IsPast past

namespace Inv

theorem start (host : HostTimes σ) : Inv host {} (fun _ => none) {} [] where
  held := ⟨List.nodup_nil, rfl, fun _ _ => rfl⟩
  engines := .nil
  shared _ isShared := by cases isShared
  unshared _ := List.not_mem_nil
  earlier _ present := by cases present

theorem length_oracles (inv : Inv host past known registry holders) :
    registry.oracles.length = holders.length := by
  rw [inv.held.each, List.length_map]

theorem share (inv : Inv host past known registry holders) :
    ∃ after, Inv host past known (registry.sharedOracle host.query).2 after ∧
      after[(registry.sharedOracle host.query).1]? = some (.shared past.clears, host.query) := by
  cases isShared : registry.shared with
  | some number =>
    refine ⟨holders, ?_, ?_⟩
    · simpa only [sharedOracle, isShared] using inv
    · simpa only [sharedOracle, isShared] using inv.shared number isShared
  | none =>
    have last : (holders ++ [(Keeper.shared past.clears, host.query)])[registry.oracles.length]? =
        some (.shared past.clears, host.query) := by
      rw [inv.length_oracles, List.getElem?_concat_length]
    refine ⟨holders ++ [(.shared past.clears, host.query)], ?_, ?_⟩
    · simp only [sharedOracle, isShared, make]
      exact {
        held := inv.held.append (inv.unshared isShared) host.query
        engines := inv.engines.imp fun _ _ found => getElem?_append_some found _
        shared := by
          intro number here
          cases here
          exact last
        unshared := nofun
        earlier := by
          intro keeper present
          rw [List.map_append, List.mem_append] at present
          rcases present with old | added
          · exact inv.earlier keeper old
          · obtain rfl := List.mem_singleton.mp added
            exact Nat.le_refl past.clears }
    · simpa only [sharedOracle, isShared, make] using last

theorem build_shared {η : Type} {supplies : Supplies σ η} (inv : Inv host past known registry holders)
    (empty : supplies.isEmpty = true) :
    ∃ after, Inv host (past.next host (.build supplies)) known
      (registry.build host.query (supplies.query? host)).2 after := by
  obtain ⟨after, shared, found⟩ := inv.share
  refine ⟨after, ?_⟩
  simp only [Past.next, Past.keeperOf, build, Supplies.query?_of_isEmpty empty, empty, if_true,
    Option.getD_none]
  exact {
    held := shared.held
    engines := List.rel_append shared.engines (.cons found .nil)
    shared := shared.shared
    unshared := shared.unshared
    earlier := fun keeper present =>
      (shared.earlier keeper present).mono (Nat.le_refl _) (length_le_append _ _) }

theorem build_own {η : Type} {supplies : Supplies σ η} (inv : Inv host past known registry holders)
    (given : supplies.isEmpty = false) :
    ∃ after, Inv host (past.next host (.build supplies)) known
      (registry.build host.query (supplies.query? host)).2 after := by
  obtain ⟨query, isOwn⟩ := Supplies.exists_query? host given
  have new : Keeper.engine past.engines.length ∉ holders.map (·.1) := by
    intro present
    exact Nat.lt_irrefl _ (inv.earlier _ present)
  refine ⟨holders ++ [(.engine past.engines.length, query)], ?_⟩
  simp only [Past.next, Past.keeperOf, build, isOwn, given, make, Option.getD_some,
    Bool.false_eq_true, if_false]
  have last : (holders ++ [(Keeper.engine past.engines.length, query)])[registry.oracles.length]? =
      some (.engine past.engines.length, query) := by
    rw [inv.length_oracles, List.getElem?_concat_length]
  exact {
    held := inv.held.append new query
    engines := List.rel_append (inv.engines.imp fun _ _ found => getElem?_append_some found _)
      (.cons last .nil)
    shared := fun number isShared => getElem?_append_some (inv.shared number isShared) _
    unshared := by
      intro isShared present
      rw [List.map_append, List.mem_append] at present
      rcases present with old | added
      · exact inv.unshared isShared old
      · cases List.mem_singleton.mp added
    earlier := by
      intro keeper present
      rw [List.map_append, List.mem_append] at present
      rcases present with old | added
      · exact (inv.earlier keeper old).mono (Nat.le_refl _) (length_le_append _ _)
      · obtain rfl := List.mem_singleton.mp added
        change _ < (past.engines ++ [_]).length
        rw [List.length_append]
        exact Nat.lt_succ_self _ }

theorem build {η : Type} (inv : Inv host past known registry holders) (supplies : Supplies σ η) :
    ∃ after, Inv host (past.next host (.build supplies)) known
      (registry.build host.query (supplies.query? host)).2 after := by
  cases isEmpty : supplies.isEmpty with
  | true => exact inv.build_shared isEmpty
  | false => exact inv.build_own isEmpty

theorem clear (inv : Inv host past known registry holders) :
    Inv host (past.next host .clear) known registry.clear holders where
  held := inv.held
  engines := inv.engines
  shared := nofun
  unshared := by
    intro _ present
    exact Nat.not_succ_le_self _ (inv.earlier _ present)
  earlier keeper present := (inv.earlier keeper present).mono (Nat.le_succ _) (Nat.le_refl _)

theorem ask (inv : Inv host past known registry holders)
    (found : holders[number]? = some (keeper, query)) {exchange : Exchange σ}
    (asked : exchange.asked = some (keeper, query))
    (answered : ((askOracle number).perform (registry, exchange.world)).1 = exchange.outcome)
    (left : ((askOracle number).perform (registry, exchange.world)).2.2 = exchange.left) :
    exchange.Answers known ∧ Inv host past (exchange.learnt known)
      ((askOracle number).perform (registry, exchange.world)).2.1 holders := by
  have performed : (askOracle number).perform (registry, exchange.world) =
      ((((known keeper).elim query pure).perform exchange.world).1.map some,
        { registry with
          oracles := registry.oracles.set number
            ⟨query, (known keeper).or
              (((known keeper).elim query pure).perform exchange.world).1.toOption⟩ },
        (((known keeper).elim query pure).perform exchange.world).2) := by
    rw [perform_askOracle (inv.held.getElem? found), Action.perform_once]
  rw [performed] at answered left ⊢
  have learnt : exchange.learnt known keeper = (known keeper).or
      (((known keeper).elim query pure).perform exchange.world).1.toOption := by
    rw [Exchange.learnt, Exchange.toldBy_asked asked, ← answered, Exchange.join_toOption_map]
  refine ⟨⟨?_, ?_⟩, ?_⟩
  · intro nobody
    cases asked.symm.trans nobody
  · intro other question isAsked
    cases asked.symm.trans isAsked
    exact ⟨answered.symm, left.symm⟩
  · rw [← learnt]
    exact {
      held := inv.held.tell found fun other different => by
        rw [Exchange.learnt, Exchange.toldBy_other asked different, Option.or_none]
      engines := inv.engines
      shared := inv.shared
      unshared := inv.unshared
      earlier := inv.earlier }

/-- A turn in which an oracle is asked. The registry between is the one in which the oracle is
there: asking the shared oracle may have to make it first. -/
theorem asks {between : Registry σ} (registry : Registry σ) (turn : Turn σ)
    (inv : Inv host past known between holders)
    (found : holders[number]? = some (keeper, query))
    (asked : (Registry.exchange host past registry turn).asked = some (keeper, query))
    (performed : registry.carryOut host turn =
      (askOracle number).perform (between, turn.world)) :
    (Registry.exchange host past registry turn).Answers known ∧
      Inv host past ((Registry.exchange host past registry turn).learnt known)
        (registry.carryOut host turn).2.1 holders := by
  rw [performed]
  refine inv.ask found asked ?_ ?_
  · exact congrArg (·.1) performed.symm
  · exact congrArg (·.2.2) performed.symm

theorem exchange (inv : Inv host past known registry holders) (turn : Turn σ) :
    (exchange host past registry turn).Answers known ∧
      ∃ after, Inv host (past.next host turn.order)
        ((Registry.exchange host past registry turn).learnt known)
        (registry.carryOut host turn).2.1 after := by
  obtain ⟨order, world⟩ := turn
  cases order with
  | build supplies =>
    refine ⟨.of_nobody rfl rfl rfl known, ?_⟩
    rw [Exchange.learnt_nobody rfl]
    exact inv.build supplies
  | askEngine number =>
    rcases getElem?_of_forall₂ inv.engines number with
      ⟨unbuilt, nobody⟩ | ⟨oracle, ⟨keeper, query⟩, built, asked, found⟩
    · have performed : registry.carryOut host ⟨.askEngine number, world⟩ =
          (.ok none, registry, world) := by
        simp only [carryOut, Order.request, serve, Action.perform_bind, Action.perform_get, unbuilt,
          Action.perform_pure]
      rw [performed]
      have silent : (Registry.exchange host past registry ⟨.askEngine number, world⟩).asked = none :=
        nobody
      rw [Exchange.learnt_nobody silent]
      refine ⟨.of_nobody silent ?_ ?_ known, holders, inv⟩
      · exact congrArg (·.1) performed
      · exact congrArg (·.2.2) performed
    · have performed : registry.carryOut host ⟨.askEngine number, world⟩ =
          (askOracle oracle).perform (registry, world) := by
        simp only [carryOut, Order.request, serve, Action.perform_bind, Action.perform_get, built]
      obtain ⟨answers, after⟩ := asks registry ⟨.askEngine number, world⟩ inv found asked performed
      exact ⟨answers, holders, after⟩
  | askShared =>
    obtain ⟨after, shared, found⟩ := inv.share
    obtain ⟨answers, between⟩ := asks registry ⟨.askShared, world⟩ shared found rfl rfl
    exact ⟨answers, after, between⟩
  | clear =>
    refine ⟨.of_nobody rfl rfl rfl known, ?_⟩
    rw [Exchange.learnt_nobody rfl]
    exact ⟨holders, inv.clear⟩

end Inv

/-- At any place of a run, who is asked tells what it has told so far. -/
theorem answers_of_run (turns : List (Turn σ)) {earlier later : List (Exchange σ)}
    {exchange : Exchange σ} (inv : Inv host past known registry holders)
    (isRun : run host past registry turns = earlier ++ exchange :: later) :
    exchange.Answers fun keeper => (known keeper).or (earlier.findSome? (Exchange.toldBy keeper)) := by
  induction turns generalizing past known registry holders earlier with
  | nil => exact absurd isRun (List.append_ne_nil_of_right_ne_nil _ (List.cons_ne_nil _ _)).symm
  | cons turn rest ih =>
    obtain ⟨answers, after, next⟩ := inv.exchange turn
    cases earlier with
    | nil =>
      obtain ⟨rfl, -⟩ := List.cons.inj isRun
      simpa only [List.findSome?_nil, Option.or_none] using answers
    | cons first earlier =>
      obtain ⟨rfl, restIsRun⟩ := List.cons.inj isRun
      have told := ih next restIsRun
      have same : (fun keeper => ((Registry.exchange host past registry turn).learnt known keeper).or
            (earlier.findSome? (Exchange.toldBy keeper))) =
          fun keeper => (known keeper).or
            ((Registry.exchange host past registry turn :: earlier).findSome?
              (Exchange.toldBy keeper)) := by
        funext keeper
        rw [Exchange.learnt, Option.or_assoc, List.findSome?_cons]
        cases (Registry.exchange host past registry turn).toldBy keeper with
        | none => rfl
        | some bootTime => rfl
      rwa [same] at told

/-- Engines that were given neither chains nor a clock share one boot time until the next clearing,
and every other engine has its own. -/
theorem run_keptApart (host : HostTimes σ) (turns : List (Turn σ)) :
    KeptApart (run host {} {} turns) := by
  have answered : AnsweredInTurn (run host {} {} turns) := by
    intro earlier exchange later place
    have answers := answers_of_run turns (.start host) place
    simpa only [Option.none_or] using answers
  refine ⟨?_, ?_, ?_, ?_⟩
  · intro keeper first firstMem second secondMem bootTime other told secondTold
    exact answered.one firstMem secondMem told secondTold
  · intro earlier exchange later keeper query place asked told toldMem bootTime isTold
    have toldSome : (earlier.findSome? (Exchange.toldBy keeper)).isSome := by
      rw [List.findSome?_isSome_iff]
      exact ⟨told, toldMem, by rw [isTold]; rfl⟩
    obtain ⟨first, isFirst⟩ := Option.isSome_iff_exists.mp toldSome
    obtain ⟨teller, tellerMem, tells⟩ := List.exists_of_findSome?_eq_some isFirst
    have within : ∀ before ∈ earlier, before ∈ run host {} {} turns := by
      intro before mem
      rw [place]
      exact List.mem_append_left _ mem
    obtain rfl := answered.one (within teller tellerMem) (within told toldMem) tells isTold
    exact answered.settled place asked isFirst
  · intro earlier exchange later keeper query place asked untold
    have answers := (answered earlier exchange later place).told keeper query asked
    rwa [List.findSome?_eq_none_iff.mpr untold] at answers
  · intro exchange mem nobody
    obtain ⟨earlier, later, place⟩ := List.append_of_mem mem
    exact (answered earlier exchange later place).silent nobody

end HostInventory.Registry
