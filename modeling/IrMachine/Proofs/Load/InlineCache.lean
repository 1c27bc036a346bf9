import IrMachine.Load.Cache
import Mathlib.Data.List.Induction

/-!
# What a cache remembers

The word of a cache stands for one of three states, and two of them take a word away from the keys.
`CacheState.see` is what a key does to the state, without the word. `InlineCache.check_eq_see` says
that a check comes to the same for every word that is a key; all that follows is about states.

After any keys the state of a new cache is a function of these keys (`CacheState.ofKeys`). From that
`InlineCache.remembers_one_key` has the answers: a cache says yes to one key at most.
-/

namespace IrMachine

namespace CacheState

/-- The answer to a key and the state afterwards. -/
def see : CacheState → UInt64 → Bool × CacheState
  | uninitialized, key => (true, monomorphic key)
  | monomorphic seen, key =>
      if seen = key then (true, monomorphic seen) else (false, polymorphic)
  | polymorphic, _ => (false, polymorphic)

/-- The state that is due to keys, in whatever order they came. -/
def ofKeys : List UInt64 → CacheState
  | [] => uninitialized
  | key :: rest => if rest.all (· == key) then monomorphic key else polymorphic

/-- One more key is answered with yes exactly if all keys before it were the same. -/
theorem see_ofKeys (keys : List UInt64) (key : UInt64) :
    (ofKeys keys).see key = (keys.all (· == key), ofKeys (keys ++ [key])) := by
  cases keys with
  | nil => rfl
  | cons first rest =>
      have grown : (rest ++ [key]).all (· == first) = (rest.all (· == first) && key == first) := by
        rw [List.all_append, List.all_cons, List.all_nil, Bool.and_true]
      rw [List.cons_append, ofKeys, ofKeys, List.all_cons, grown]
      by_cases again : first = key
      · subst again
        cases same : rest.all (· == first) with
        | true => simp [see]
        | false => simp [see]
      · have other : (key == first) = false := beq_false_of_ne (Ne.symm again)
        rw [other, beq_false_of_ne again, Bool.and_false, Bool.false_and, if_neg Bool.false_ne_true]
        cases same : rest.all (· == first) with
        | true => rw [if_pos rfl, see, if_neg again]
        | false => rw [if_neg Bool.false_ne_true, see]

/-- A state says yes to a key only if no other key has been seen. -/
theorem eq_of_see {state : CacheState} {key : UInt64} (yes : (state.see key).1 = true) :
    (state.see key).2 = monomorphic key := by
  cases state with
  | uninitialized => rfl
  | monomorphic seen =>
      by_cases same : seen = key
      · rw [see, if_pos same, same]
      · rw [see, if_neg same] at yes
        cases yes
  | polymorphic => cases yes

theorem see_of_no {state : CacheState} {key : UInt64} (no : (state.see key).1 = false) :
    (state.see key).2 = polymorphic := by
  cases state with
  | uninitialized => cases no
  | monomorphic seen =>
      by_cases same : seen = key
      · rw [see, if_pos same] at no
        cases no
      · rw [see, if_neg same]
  | polymorphic => rfl

end CacheState

namespace InlineCache

/-- On keys, the word does what the state does. -/
theorem check_eq_see (cache : InlineCache) {key : UInt64} (isKey : IsKey key) :
    ((cache.check key).1, (cache.check key).2.state) = cache.state.see key := by
  obtain ⟨notUnseen, notSpoilt⟩ := isKey
  have marks : spoilt ≠ unseen := by decide
  have fresh : (⟨key⟩ : InlineCache).state = .monomorphic key := by
    rw [state, if_neg notUnseen, if_neg notSpoilt]
  by_cases isSpoilt : cache.word = spoilt
  · have other : cache.word ≠ key := fun equal => notSpoilt (equal.symm.trans isSpoilt)
    have blank : cache.word ≠ unseen := fun equal => marks (isSpoilt.symm.trans equal)
    rw [check, if_neg other, if_pos isSpoilt, state, if_neg blank, if_pos isSpoilt]
    rfl
  · by_cases isUnseen : cache.word = unseen
    · have other : cache.word ≠ key := fun equal => notUnseen (equal.symm.trans isUnseen)
      rw [check, if_neg other, if_neg isSpoilt, if_pos isUnseen, fresh, state, if_pos isUnseen]
      rfl
    · have held : cache.state = .monomorphic cache.word := by
        rw [state, if_neg isUnseen, if_neg isSpoilt]
      rw [held, CacheState.see]
      by_cases same : cache.word = key
      · rw [check, if_pos same, if_pos same, held]
      · rw [check, if_neg same, if_neg isSpoilt, if_neg isUnseen, if_neg same]
        rfl

theorem check_fst (cache : InlineCache) {key : UInt64} (isKey : IsKey key) :
    (cache.check key).1 = (cache.state.see key).1 :=
  congrArg Prod.fst (cache.check_eq_see isKey)

theorem state_check (cache : InlineCache) {key : UInt64} (isKey : IsKey key) :
    (cache.check key).2.state = (cache.state.see key).2 :=
  congrArg Prod.snd (cache.check_eq_see isKey)

def after (cache : InlineCache) (keys : List UInt64) : InlineCache :=
  keys.foldl (fun cache key => (cache.check key).2) cache

theorem after_append (cache : InlineCache) (keys more : List UInt64) :
    cache.after (keys ++ more) = (cache.after keys).after more :=
  List.foldl_append ..

/-- Every answer is that of a check of the cache after the keys before. -/
theorem getElem?_checkAll (cache : InlineCache) (keys : List UInt64) (i : Nat) :
    (cache.checkAll keys)[i]? = keys[i]?.map (cache.after (keys.take i)).check := by
  induction keys generalizing cache i with
  | nil => rfl
  | cons key rest ih =>
      cases i with
      | zero => rfl
      | succ i => exact ih (cache.check key).2 i

/-- The state of a new cache is the one that is due to the keys it was asked about. -/
theorem state_after_new {keys : List UInt64} (proper : ∀ key ∈ keys, IsKey key) :
    (new.after keys).state = .ofKeys keys := by
  induction keys using List.reverseRecOn with
  | nil => rfl
  | append_singleton keys key ih =>
      obtain ⟨before, last⟩ := List.forall_mem_append.mp proper
      have isKey : IsKey key := last key (List.mem_singleton_self key)
      have seen : (new.after (keys ++ [key])).state = ((new.after keys).check key).2.state := by
        rw [after_append]
        rfl
      rw [seen, state_check _ isKey, ih before, CacheState.see_ofKeys]

/-- A spoilt cache stays so. -/
theorem state_after_of_polymorphic {cache : InlineCache} {keys : List UInt64}
    (spoiled : cache.state = .polymorphic) (proper : ∀ key ∈ keys, IsKey key) :
    (cache.after keys).state = .polymorphic := by
  induction keys generalizing cache with
  | nil => exact spoiled
  | cons key rest ih =>
      obtain ⟨isKey, proper⟩ := List.forall_mem_cons.mp proper
      apply ih _ proper
      rw [cache.state_check isKey, spoiled]
      rfl

/-- A cache that has seen one key goes on with it, or is spoilt. -/
theorem state_after_of_monomorphic {cache : InlineCache} {key : UInt64} {keys : List UInt64}
    (seen : cache.state = .monomorphic key) (proper : ∀ key ∈ keys, IsKey key) :
    (cache.after keys).state = .monomorphic key ∨ (cache.after keys).state = .polymorphic := by
  induction keys generalizing cache with
  | nil => exact .inl seen
  | cons other rest ih =>
      obtain ⟨isKey, proper⟩ := List.forall_mem_cons.mp proper
      have next := cache.state_check isKey
      rw [seen, CacheState.see] at next
      by_cases same : key = other
      · rw [if_pos same] at next
        exact ih next proper
      · rw [if_neg same] at next
        right
        apply state_after_of_polymorphic _ proper
        exact next

/-- After a cache has said yes to a key, it says yes to no other. -/
theorem eq_of_check_after {cache : InlineCache} {key other : UInt64} {between : List UInt64}
    (isKey : IsKey key) (isOther : IsKey other) (proper : ∀ key ∈ between, IsKey key)
    (hit : (cache.check key).1 = true)
    (again : (((cache.check key).2.after between).check other).1 = true) : other = key := by
  have seen : (cache.check key).2.state = .monomorphic key := by
    rw [check_fst _ isKey] at hit
    rw [state_check _ isKey, CacheState.eq_of_see hit]
  rw [check_fst _ isOther] at again
  obtain still | spoiled := state_after_of_monomorphic seen proper
  · rw [still, CacheState.see] at again
    by_contra different
    rw [if_neg (Ne.symm different)] at again
    cases again
  · rw [spoiled] at again
    cases again

/-- A cache that has said no never says yes again. -/
theorem check_check_of_miss {cache : InlineCache} {key other : UInt64} (isKey : IsKey key)
    (isOther : IsKey other) (miss : (cache.check key).1 = false) :
    ((cache.check key).2.check other).1 = false := by
  rw [check_fst _ isKey] at miss
  rw [check_fst _ isOther, state_check _ isKey, CacheState.see_of_no miss]
  rfl

@[simp] theorem length_checkAll (cache : InlineCache) (keys : List UInt64) :
    (cache.checkAll keys).length = keys.length := by
  induction keys generalizing cache with
  | nil => rfl
  | cons key rest ih => exact congrArg (· + 1) (ih _)

/-- Each answer belongs to a key, and to the cache after the keys before. -/
theorem check_of_answer {cache next : InlineCache} {keys : List UInt64} {i : Nat} {answer : Bool}
    (answered : (cache.checkAll keys)[i]? = some (answer, next)) :
    ∃ key, keys[i]? = some key ∧ (cache.after (keys.take i)).check key = (answer, next) := by
  rw [getElem?_checkAll] at answered
  exact Option.map_eq_some_iff.mp answered

def Uniform (keys : List UInt64) : Prop := ∀ first ∈ keys, ∀ second ∈ keys, first = second

theorem uniform_concat_iff (keys : List UInt64) (key : UInt64) :
    Uniform (keys ++ [key]) ↔ keys.all (· == key) = true := by
  simp only [List.all_eq_true, beq_iff_eq]
  constructor
  · intro uniform other member
    exact uniform other (List.mem_append_left _ member) key
      (List.mem_append_right _ List.mem_cons_self)
  · intro same
    have all : ∀ other ∈ keys ++ [key], other = key :=
      List.forall_mem_append.mpr ⟨same, List.forall_mem_singleton.mpr rfl⟩
    intro first member second member'
    rw [all first member, all second member']

/-- What a new cache answers to a key after others. -/
theorem answer_of_new {keys : List UInt64} (proper : ∀ key ∈ keys, IsKey key) {i : Nat}
    {answer : Bool} {next : InlineCache}
    (answered : (new.checkAll keys)[i]? = some (answer, next)) :
    (answer = true ↔ Uniform (keys.take (i + 1))) ∧
      next.state = .ofKeys (keys.take (i + 1)) := by
  obtain ⟨key, found, checked⟩ := check_of_answer answered
  have isKey : IsKey key := proper key (List.mem_of_getElem? found)
  have before : ∀ key ∈ keys.take i, IsKey key :=
    fun key member => proper key (List.mem_of_mem_take member)
  have seen := (new.after (keys.take i)).check_eq_see isKey
  rw [checked, state_after_new before, CacheState.see_ofKeys] at seen
  obtain ⟨rfl, state⟩ := Prod.mk.inj seen
  rw [List.take_add_one, found, Option.toList_some, uniform_concat_iff]
  exact ⟨Iff.rfl, state⟩

/-- Of two keys that a cache says yes to, the later one is the earlier one again. -/
theorem eq_of_hits {cache next next' : InlineCache} {keys : List UInt64}
    (proper : ∀ key ∈ keys, IsKey key) {i j : Nat} (earlier : i < j)
    (hit : (cache.checkAll keys)[i]? = some (true, next))
    (again : (cache.checkAll keys)[j]? = some (true, next')) : keys[i]? = keys[j]? := by
  obtain ⟨key, found, checked⟩ := check_of_answer hit
  obtain ⟨other, found', checked'⟩ := check_of_answer again
  -- Before the later key come the keys before the earlier one, that key, and those in between.
  have first : (keys.take j).take i = keys.take i := by
    rw [List.take_take, Nat.min_eq_left (Nat.le_of_lt earlier)]
  have between : (keys.take j).drop i = key :: (keys.take j).drop (i + 1) := by
    have here : (keys.take j)[i]? = some key := by rw [List.getElem?_take_of_lt earlier, found]
    obtain ⟨bound, value⟩ := List.getElem?_eq_some_iff.mp here
    rw [List.drop_eq_getElem_cons bound, value]
  have split : keys.take j = keys.take i ++ key :: (keys.take j).drop (i + 1) := by
    rw [← first, ← between, List.take_append_drop]
  have rest : ∀ key ∈ (keys.take j).drop (i + 1), IsKey key :=
    fun key member => proper key (List.mem_of_mem_take (List.mem_of_mem_drop member))
  rw [split, after_append] at checked'
  rw [found, found']
  apply congrArg some
  apply Eq.symm
  apply eq_of_check_after (proper key (List.mem_of_getElem? found))
    (proper other (List.mem_of_getElem? found')) rest
  · rw [checked]
  · exact congrArg Prod.fst checked'

/-- A cache remembers exactly whether one key was seen. Whatever keys come, a new cache answers each
of them with yes exactly if it and all keys before it are the same, and is left in the state that is
due to them. A cache that is spoilt, as a disabled one is from the start, never says yes and stays
as it is. So no cache says yes to two different keys. -/
theorem remembers_one_key {keys : List UInt64} (proper : ∀ key ∈ keys, IsKey key) :
    (new.checkAll keys).length = keys.length ∧ new.state = .uninitialized ∧
    (∀ i answer next, (new.checkAll keys)[i]? = some (answer, next) →
      (answer = true ↔ Uniform (keys.take (i + 1))) ∧
        next.state = .ofKeys (keys.take (i + 1))) ∧
    (∀ cache : InlineCache, cache.state = .polymorphic → ∀ answer next,
      (answer, next) ∈ cache.checkAll keys → answer = false ∧ next.state = .polymorphic) ∧
    disabled.state = .polymorphic ∧
    ∀ (cache : InlineCache) (i j : Nat) next next', (cache.checkAll keys)[i]? = some (true, next) →
      (cache.checkAll keys)[j]? = some (true, next') → keys[i]? = keys[j]? := by
  refine ⟨length_checkAll .., rfl, fun i answer next => answer_of_new proper, ?_, rfl, ?_⟩
  · intro cache spoiled answer next member
    obtain ⟨i, answered⟩ := List.getElem?_of_mem member
    obtain ⟨key, found, checked⟩ := check_of_answer answered
    have seen := (cache.after (keys.take i)).check_eq_see (proper key (List.mem_of_getElem? found))
    have before : ∀ key ∈ keys.take i, IsKey key :=
      fun key member => proper key (List.mem_of_mem_take member)
    rw [checked, state_after_of_polymorphic spoiled before] at seen
    exact Prod.mk.inj seen
  · intro cache i j next next' hit again
    obtain earlier | rfl | later := Nat.lt_trichotomy i j
    · exact eq_of_hits proper earlier hit again
    · rfl
    · exact (eq_of_hits proper later again hit).symm

/-- A cache says yes to a key that comes twice, and no to its third time after another key. -/
theorem sample_remembered :
    (∀ key ∈ [3, 3, 5, 3], IsKey key) ∧
      (new.checkAll [3, 3, 5, 3])[1]? = some (true, ⟨3⟩) ∧ Uniform [3, 3] ∧
      (new.checkAll [3, 3, 5, 3])[3]? = some (false, disabled) ∧ ¬ Uniform [3, 3, 5, 3] ∧
      disabled.state = .ofKeys [3, 3, 5, 3] := by
  have three : IsKey 3 := by decide
  have five : IsKey 5 := by decide
  have proper : ∀ key ∈ [3, 3, 5, 3], IsKey key := by simp [three, five]
  obtain ⟨_, _, answers, _⟩ := remembers_one_key proper
  obtain ⟨yes, _⟩ := answers 1 true ⟨3⟩ rfl
  obtain ⟨no, spoiled⟩ := answers 3 false disabled rfl
  refine ⟨proper, rfl, yes.mp rfl, rfl, ?_, spoiled⟩
  intro uniform
  exact absurd (no.mpr uniform) Bool.false_ne_true

end InlineCache

end IrMachine
