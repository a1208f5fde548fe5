import BannerMatch.Breakdown
import BannerMatch.Fingerprint
import BannerMatch.Service

/-!
# The result cache

The cache keeps the services found in a text under the fingerprint of the text. Instants are
counted in nanoseconds, and every operation is told the instant `now` at which it takes place.

* An entry lives for the time `ttl` after it was written. A write breaks down if that time ends
  beyond the range of the clock.
* A write belongs to the generation in which its services were computed; `invalidate` empties the
  cache and begins a new generation, and writes of earlier ones are dropped.
* When the cache is full, the entry that expires first makes room for a new one.

Beside the entries there is a list of records, earliest first, of when which entry expires. A
record whose entry has been written again since is left in the list and passed over.
-/

namespace BannerMatch

namespace Cache

/-- What is kept under a fingerprint. -/
structure Entry where
  services : List Service
  /-- The instant from which on the entry counts as absent. -/
  expiry : Nat
  generation : Nat
deriving DecidableEq, Repr

/-- The note that an entry expires. -/
structure Record where
  expiry : Nat
  key : Fingerprint
deriving DecidableEq, Repr

/-- Entries by fingerprint. -/
abbrev Entries := List (Fingerprint × Entry)

/-- Removes the entry under a fingerprint if it passes a test. -/
def Entries.dropIf (es : Entries) (key : Fingerprint) (test : Entry → Bool) : Entries :=
  es.filter fun e => !(e.1 == key && test e.2)

/-- Puts an entry under a fingerprint, in place of an earlier one. -/
def Entries.insert (es : Entries) (key : Fingerprint) (e : Entry) : Entries :=
  (key, e) :: es.dropIf key fun _ => true

/-- Whether there is an entry under a fingerprint. -/
def Entries.has (es : Entries) (key : Fingerprint) : Bool := (es.lookup key).isSome

/-- The order of records: by instant, then by fingerprint. -/
def Record.precedes (r s : Record) : Bool :=
  r.expiry < s.expiry || (r.expiry == s.expiry && r.key ≤ s.key)

/-- Adds a record to records in order. -/
def schedule (r : Record) : List Record → List Record
  | [] => [r]
  | s :: rest => if r.precedes s then r :: s :: rest else s :: schedule r rest

/-- Removes the entries that have expired by `now`. -/
def expire (now : Nat) (es : Entries) : List Record → Entries × List Record
  | [] => (es, [])
  | r :: rest =>
      if now < r.expiry then (es, r :: rest)
      else expire now (es.dropIf r.key fun e => e.expiry ≤ now) rest

/-- Removes entries in the order of their records until there are fewer than `capacity`. -/
def evict (capacity : Nat) (es : Entries) : List Record → Entries × List Record
  | [] => (es, [])
  | r :: rest =>
      if es.length < capacity then (es, r :: rest)
      else evict capacity (es.dropIf r.key fun e => e.expiry == r.expiry) rest

end Cache

open Cache

/-- A result cache. -/
structure Cache where
  /-- How long an entry lives. -/
  ttl : Nat
  /-- The greatest number of entries. -/
  capacity : Nat
  generation : Nat := 0
  entries : Entries := []
  records : List Record := []
deriving DecidableEq, Repr

namespace Cache

/-- The number of entries. -/
def size (c : Cache) : Nat := c.entries.length

/-- Whether an entry can be given out at an instant. -/
def isFresh (c : Cache) (now : Nat) (e : Entry) : Bool :=
  e.generation == c.generation && decide (now < e.expiry)

/-- The services under a fingerprint; an entry that cannot be given out is removed. -/
def get (c : Cache) (now : Nat) (key : Fingerprint) : Option (List Service) × Cache :=
  match c.entries.lookup key with
  | none => (none, c)
  | some e =>
      if c.isFresh now e then (some e.services, c)
      else (none, { c with entries := c.entries.dropIf key fun e => !c.isFresh now e })

/-- Removes the entries that have expired, and gives their number. -/
def sweep (c : Cache) (now : Nat) : Nat × Cache :=
  let left := expire now c.entries c.records
  (c.entries.length - left.1.length, { c with entries := left.1, records := left.2 })

/-- Makes room for an entry under a fingerprint if the cache is full. -/
def makeRoom (c : Cache) (key : Fingerprint) : Cache :=
  if c.capacity ≤ c.size && !c.entries.has key then
    let left := evict c.capacity c.entries c.records
    { c with entries := left.1, records := left.2 }
  else c

/-- Writes an entry that expires at a given instant. -/
def write (c : Cache) (expiry : Nat) (key : Fingerprint) (services : List Service) : Cache :=
  { c with
    entries := c.entries.insert key ⟨services, expiry, c.generation⟩
    records := schedule ⟨expiry, key⟩ c.records }

/-- Whether services that were computed in a generation are kept. -/
def accepts (c : Cache) (services : List Service) (generation : Nat) : Bool :=
  !services.isEmpty && c.capacity != 0 && generation == c.generation

/-- Keeps services that were computed in a generation under a fingerprint. If they expire beyond the
range of the clock, this breaks down when room has been made for them. -/
def put (c : Cache) (now : Nat) (key : Fingerprint) (services : List Service)
    (generation : Nat) : Except Breakdown Unit × Cache :=
  if c.accepts services generation then
    let cleared := (c.sweep now).2.makeRoom key
    match later? now c.ttl with
    | some expiry => (.ok (), cleared.write expiry key services)
    | none => (.error .instantOutOfRange, cleared)
  else (.ok (), c)

/-- Empties the cache and begins a new generation. -/
def invalidate (c : Cache) : Cache :=
  { c with generation := c.generation + 1, entries := [], records := [] }

end Cache

end BannerMatch
