import IrMachine.Load.Site
import IrMachine.Proofs.Computation
import IrMachine.Proofs.Load.InlineCache

/-!
# Caches never change a load

`LoadKind.load` is a load without any cache: the rule for the address is looked up and followed. A
site that reuses a routine does not look at the address at all, so it is right only as long as its
cache and the routine it kept agree. That agreement is `LoadSite.Faithful`. A new site has it, and
every execution keeps it, whichever machine and address it is given, also where no rule is found
after the cache has taken note of the address.

The main result is `LoadSite.caching_changes_nothing`: after any history, a site gives what a new
site gives with caches out of use.
-/

namespace IrMachine

namespace AddressKind

/-- A load site tells all representations apart. -/
theorem key_injective : Function.Injective key := by
  intro first second same
  cases first <;> cases second <;> first | rfl | exact absurd same (by decide)

theorem isKey_key (kind : AddressKind) : InlineCache.IsKey kind.key := by
  cases kind <;> decide

end AddressKind

namespace Machine

def withoutCaching (machine : Machine) : Machine :=
  { machine with config := { machine.config with inlineCaching := false } }

end Machine

/-- No routine looks at the machine's settings. -/
theorem Routine.run_withoutCaching (routine : Routine) (kind : LoadKind) (machine : Machine)
    (address : Address) :
    routine.run kind machine.withoutCaching address =
      ((routine.run kind machine address).1,
        (routine.run kind machine address).2.withoutCaching) := by
  cases routine <;> cases address <;> rfl

/-- A load without a cache. -/
def LoadKind.load (kind : LoadKind) (machine : Machine) (address : Address) :
    Except Fault Value × Machine :=
  match kind.select address.kind with
  | .error fault => (.error fault, machine)
  | .ok routine => routine.run kind machine address

namespace LoadSite

/-- The site goes by the routine it kept, without a look at the rules. -/
def Reuses (site : LoadSite) (caching : Bool) (address : AddressKind) (routine : Routine) : Prop :=
  caching = true ∧ (site.cache.check address.key).1 = true ∧ site.picked = some routine

/-- Wherever the cache says yes, the routine that the site kept is the one for the address. -/
def Faithful (site : LoadSite) : Prop :=
  ∀ address routine, site.Reuses true address routine → site.kind.select address = .ok routine

theorem faithful_new (kind : LoadKind) : Faithful { kind } := by
  rintro address routine ⟨_, _, kept⟩
  cases kept

theorem choose_of_miss {site : LoadSite} {address : AddressKind} {cache : InlineCache}
    (miss : site.cache.check address.key = (false, cache)) :
    site.choose true address = (site.kind.select address, { site with cache }) := by
  simp only [choose, miss, if_true, Bool.false_eq_true, if_false]

theorem choose_of_kept {site : LoadSite} {address : AddressKind} {cache : InlineCache}
    {routine : Routine} (hit : site.cache.check address.key = (true, cache))
    (kept : site.picked = some routine) :
    site.choose true address = (.ok routine, { site with cache }) := by
  simp only [choose, hit, kept, if_true]

/-- A site without a routine keeps the one that the rules give, if they give one. -/
theorem choose_of_none {site : LoadSite} {address : AddressKind} {cache : InlineCache}
    (hit : site.cache.check address.key = (true, cache)) (none : site.picked = none) :
    site.choose true address = (site.kind.select address,
      { site with cache, picked := (site.kind.select address).toOption }) := by
  cases selected : site.kind.select address with
  | error fault => simp only [choose, hit, none, selected, if_true, Except.toOption]
  | ok routine => simp only [choose, hit, none, selected, if_true, Except.toOption]

/-- A faithful site picks the routine that the rules give, and stays faithful. -/
theorem Faithful.choose {site : LoadSite} (faithful : site.Faithful) (caching : Bool)
    (address : AddressKind) :
    (site.choose caching address).1 = site.kind.select address ∧
      (site.choose caching address).2.kind = site.kind ∧
      (site.choose caching address).2.Faithful := by
  cases caching with
  | false => exact ⟨rfl, rfl, faithful⟩
  | true =>
      rcases checked : site.cache.check address.key with ⟨hit, cache⟩
      have checked₁ : (site.cache.check address.key).1 = hit := congrArg Prod.fst checked
      have checked₂ : (site.cache.check address.key).2 = cache := congrArg Prod.snd checked
      cases hit with
      | false =>
          rw [choose_of_miss checked]
          refine ⟨rfl, rfl, ?_⟩
          rintro other routine ⟨_, again, _⟩
          have never :=
            InlineCache.check_check_of_miss address.isKey_key other.isKey_key checked₁
          rw [checked₂] at never
          exact absurd again (Bool.eq_false_iff.mp never)
      | true =>
          have only : ∀ other : AddressKind,
              (cache.check other.key).1 = true → other = address := by
            intro other again
            apply AddressKind.key_injective
            apply InlineCache.eq_of_check_after address.isKey_key other.isKey_key
              (List.forall_mem_nil _) checked₁
            rw [checked₂]
            exact again
          cases kept : site.picked with
          | some routine =>
              rw [choose_of_kept checked kept]
              refine ⟨(faithful address routine ⟨rfl, checked₁, kept⟩).symm, rfl, ?_⟩
              rintro other reused ⟨_, again, still⟩
              obtain rfl := only other again
              exact faithful other reused ⟨rfl, checked₁, still⟩
          | none =>
              rw [choose_of_none checked kept]
              refine ⟨rfl, rfl, ?_⟩
              rintro other reused ⟨_, again, first⟩
              obtain rfl := only other again
              exact toOption_eq_some_iff.mp first

/-- A faithful site loads as if it had no cache, and stays faithful. -/
theorem Faithful.execute {site : LoadSite} (faithful : site.Faithful) (machine : Machine)
    (address : Address) :
    (site.execute machine address).1 = (site.kind.load machine address).1 ∧
      (site.execute machine address).2.2 = (site.kind.load machine address).2 ∧
      (site.execute machine address).2.1.kind = site.kind ∧
      (site.execute machine address).2.1.Faithful := by
  obtain ⟨chosen, kind, stays⟩ := faithful.choose machine.config.inlineCaching address.kind
  rw [LoadSite.execute, LoadKind.load, ← chosen]
  generalize site.choose machine.config.inlineCaching address.kind = choice at kind stays
  obtain ⟨answer, next⟩ := choice
  change next.kind = site.kind at kind
  cases answer with
  | error fault => exact ⟨rfl, rfl, kind, stays⟩
  | ok routine =>
      rw [← kind]
      exact ⟨rfl, rfl, rfl, stays⟩

def after (site : LoadSite) (history : List (Machine × Address)) : LoadSite :=
  history.foldl (fun site load => (site.execute load.1 load.2).2.1) site

theorem Faithful.after {site : LoadSite} (faithful : site.Faithful)
    (history : List (Machine × Address)) :
    (site.after history).kind = site.kind ∧ (site.after history).Faithful := by
  induction history generalizing site with
  | nil => exact ⟨rfl, faithful⟩
  | cons load rest ih =>
      obtain ⟨_, _, kind, stays⟩ := faithful.execute load.1 load.2
      obtain ⟨kind', stays'⟩ := ih stays
      exact ⟨kind'.trans kind, stays'⟩

/-- A site of any history loads as if it had no cache. -/
theorem execute_after (kind : LoadKind) (history : List (Machine × Address)) (machine : Machine)
    (address : Address) :
    ((after { kind } history).execute machine address).1 = (kind.load machine address).1 ∧
      ((after { kind } history).execute machine address).2.2 = (kind.load machine address).2 := by
  obtain ⟨same, faithful⟩ := (faithful_new kind).after history
  obtain ⟨result, machines, _⟩ := faithful.execute machine address
  rw [same] at result machines
  exact ⟨result, machines⟩

/-- With caches out of use, every site follows the rules and stays as it is. -/
theorem execute_withoutCaching (site : LoadSite) (machine : Machine) (address : Address) :
    site.execute machine.withoutCaching address =
      ((site.kind.load machine address).1, site,
        (site.kind.load machine address).2.withoutCaching) := by
  have rules : site.choose machine.withoutCaching.config.inlineCaching address.kind =
      (site.kind.select address.kind, site) := rfl
  rw [execute, rules, LoadKind.load]
  cases site.kind.select address.kind with
  | error fault => rfl
  | ok routine => simp only [Routine.run_withoutCaching]

/-- Caching never changes a result. Whatever a site was used for before, on whichever machines, with
caches in use or not, its next load gives the same value or fault, and leaves the same machine, as
that of a new site with caches out of use; and a routine that it reuses is the one that the rules
give for the address. -/
theorem caching_changes_nothing (kind : LoadKind) (history : List (Machine × Address))
    (machine : Machine) (address : Address) :
    ((after { kind } history).execute machine address).1 =
        (execute { kind } machine.withoutCaching address).1 ∧
      ((after { kind } history).execute machine address).2.2.withoutCaching =
        (execute { kind } machine.withoutCaching address).2.2 ∧
      ∀ routine,
        (after { kind } history).Reuses machine.config.inlineCaching address.kind routine →
        kind.select address.kind = .ok routine := by
  obtain ⟨result, machines⟩ := execute_after kind history machine address
  obtain ⟨same, faithful⟩ := (faithful_new kind).after history
  rw [execute_withoutCaching, result, machines]
  refine ⟨rfl, rfl, ?_⟩
  rintro routine ⟨_, hit, kept⟩
  have selected := faithful address.kind routine ⟨rfl, hit, kept⟩
  rw [same] at selected
  exact selected

def sampleMachine : Machine :=
  .start { memoryBase := 0x100, memorySize := 64, stackSize := 16 }

/-- A load from a native address with caches in use, and one through a boxed primitive without. -/
def sampleHistory : List (Machine × Address) :=
  [(sampleMachine, .native 0x100), (sampleMachine.withoutCaching, .boxed (.int 0x108))]

/-- The next load from a native address reuses the first routine. -/
theorem sample_reuse :
    (after { kind := .address } sampleHistory).Reuses true .native .direct ∧
      LoadKind.address.select .native = .ok .direct ∧
      ((after { kind := .address } sampleHistory).execute sampleMachine (.native 0x108)).1 =
        .ok (.address (.native 0)) := by
  have reuses : (after { kind := .address } sampleHistory).Reuses true .native .direct :=
    ⟨rfl, rfl, rfl⟩
  obtain ⟨same, _, selected⟩ :=
    caching_changes_nothing .address sampleHistory sampleMachine (.native 0x108)
  refine ⟨reuses, selected .direct reuses, ?_⟩
  rw [same]
  rfl

end LoadSite

end IrMachine
