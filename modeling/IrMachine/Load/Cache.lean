/-!
# Inline caches

A load site remembers the first key it is asked about. As long as it is asked about that key only,
it says yes; the first other key spoils it for good. The answer is a hint: no result may depend
on it.

A cache is kept in one word, which is the key it has seen. Two words are no keys: one stands for a
cache that has seen nothing yet, and one for a cache that is spoilt.
-/

namespace IrMachine

inductive CacheState where
  | uninitialized
  /-- One key only. -/
  | monomorphic (key : UInt64)
  /-- Several keys. -/
  | polymorphic
deriving DecidableEq, Inhabited

/-- What a load site remembers of the keys it has seen. -/
structure InlineCache where
  word : UInt64
deriving DecidableEq, Inhabited

namespace CacheState

def describe : CacheState → String
  | uninitialized => "Uninitialized"
  | monomorphic key => "Monomorphic(" ++ toString key.toNat ++ ")"
  | polymorphic => "Polymorphic"

end CacheState

namespace InlineCache

/-- The word of a cache that has seen nothing. -/
def unseen : UInt64 := 0

/-- The word of a cache that has seen several keys. -/
def spoilt : UInt64 := 0xFFFFFFFFFFFFFFFF

def new : InlineCache := ⟨unseen⟩

/-- A cache that says no from the start. -/
def disabled : InlineCache := ⟨spoilt⟩

/-- A word is a key if it has no other meaning. -/
def IsKey (word : UInt64) : Prop := word ≠ unseen ∧ word ≠ spoilt
deriving Decidable

/-- Whether all keys seen so far, this one included, are the same; and the cache afterwards. -/
def check (cache : InlineCache) (key : UInt64) : Bool × InlineCache :=
  if cache.word = key then (true, cache)
  else if cache.word = spoilt then (false, cache)
  else if cache.word = unseen then (true, ⟨key⟩)
  else (false, disabled)

/-- The answers to keys that come one after another, each with the cache afterwards. -/
def checkAll : InlineCache → List UInt64 → List (Bool × InlineCache)
  | _, [] => []
  | cache, key :: rest =>
      let answer := cache.check key
      answer :: checkAll answer.2 rest

def state (cache : InlineCache) : CacheState :=
  if cache.word = unseen then .uninitialized
  else if cache.word = spoilt then .polymorphic
  else .monomorphic cache.word

end InlineCache

end IrMachine
