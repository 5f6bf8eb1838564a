import ReplicatedSpace.Decimal.Binary64
import ReplicatedSpace.Text.Letter

/-!
A span of time is a whole number of nanoseconds below 2^64 seconds. Multiples that do not fit stay
at the largest span. Spans are read as decimal numbers of seconds and written with a unit, and
timers wait for them.
-/
namespace ReplicatedSpace

def Span.perSecond : Nat := 1000000000

def Span.limit : Nat := UInt64.size * Span.perSecond - 1

/-- A duration of at most 2^64 - 1 seconds and 999999999 nanoseconds. -/
structure Span where
  nanos : Nat
  inRange : nanos ≤ Span.limit
deriving DecidableEq

namespace Span

def ofNanos (nanos : Nat) : Span := ⟨min nanos limit, Nat.min_le_right _ _⟩

/-- The span of that many nanoseconds, if there is one. -/
def ofNanos? (nanos : Nat) : Option Span :=
  if inRange : nanos ≤ limit then some ⟨nanos, inRange⟩ else none

def zero : Span := ⟨0, Nat.zero_le _⟩

def longest : Span := ⟨limit, Nat.le_refl _⟩

/-- Every number of milliseconds that fits a word is a span. -/
def ofMillis (millis : UInt64) : Span :=
  ⟨millis.toNat * 1000000, by
    have := millis.toNat_lt
    simp only [limit, perSecond, UInt64.size]
    omega⟩

def seconds (span : Span) : Nat := span.nanos / perSecond

def subsecond (span : Span) : Nat := span.nanos % perSecond

def scale (span : Span) (count : Nat) : Span := ofNanos (span.nanos * count)

def ceilMillis (span : Span) : Nat := (span.nanos + 999999) / 1000000

def farMillis : Nat := 30 * 365 * 24 * 60 * 60 * 1000

def lastTick : Nat := UInt64.size - 3

/-- How many milliseconds a sleep takes on a clock of 2^63 seconds that has just been started.
Instead of a sleep that the clock has no room for there is one of thirty years. -/
def waitMillis (span : Span) : Nat :=
  if Nat.pow 2 63 ≤ span.seconds then farMillis else min span.ceilMillis lastTick

instance : LE Span := ⟨fun earlier later => earlier.nanos ≤ later.nanos⟩
instance : LT Span := ⟨fun earlier later => earlier.nanos < later.nanos⟩
instance (earlier later : Span) : Decidable (earlier ≤ later) :=
  inferInstanceAs (Decidable (earlier.nanos ≤ later.nanos))
instance (earlier later : Span) : Decidable (earlier < later) :=
  inferInstanceAs (Decidable (earlier.nanos < later.nanos))
instance : Inhabited Span := ⟨zero⟩

theorem subsecond_lt (span : Span) : span.subsecond < perSecond :=
  Nat.mod_lt _ (by decide)

theorem seconds_lt (span : Span) : span.seconds < UInt64.size := by
  have := span.inRange
  simp only [seconds, limit, perSecond, UInt64.size] at *
  omega

theorem nanos_eq (span : Span) : span.nanos = span.seconds * perSecond + span.subsecond := by
  rw [Nat.mul_comm]; exact (Nat.div_add_mod _ _).symm

theorem nanos_scale (span : Span) (count : Nat) :
    (span.scale count).nanos = min (span.nanos * count) limit := rfl

theorem ceilMillis_le {shorter longer : Span} (less : shorter ≤ longer) :
    shorter.ceilMillis ≤ longer.ceilMillis :=
  Nat.div_le_div_right (Nat.add_le_add_right less _)

/-- The span of a double's value in seconds: zero of either sign, or positive and below 2^64. -/
def ofDouble? : Decimal.Binary64 → Option Span
  | .finite negative units =>
    if negative && units != 0 then none
    else ofNanos? (Decimal.roundHalfEven (units * perSecond) Decimal.Binary64.unitsPerOne)
  | .infinite _ | .notANumber => none

/-- Reads a number of seconds between optional blanks. The number is taken as the nearest double,
whose exact value is rounded to whole nanoseconds, a half to the even neighbour. -/
def ofSeconds? (text : String) : Option Span := do
  ofDouble? (.ofLiteral (← Decimal.Literal.read? (Text.trim text.toList)))

def units : List (Nat × String) := [(perSecond, "s"), (1000000, "ms"), (1000, "µs"), (1, "ns")]

/-- The decimal places of a part of a unit, which is a power of ten. -/
def places (unit part : Nat) : List Char :=
  ((Nat.toDigits 10 (unit + part)).tail.reverse.dropWhile (· = '0')).reverse

/-- Writes the number of the largest unit that the span fills, with a fraction as long as need be.
-/
def render (span : Span) : String :=
  let (unit, name) := (units.find? fun (unit, _) => unit ≤ span.nanos).getD (1, "ns")
  let places := places unit (span.nanos % unit)
  let point := if places.isEmpty then [] else ['.']
  .ofList (Nat.toDigits 10 (span.nanos / unit) ++ point ++ places) ++ name

end Span

/-- How many ticks of a millisecond a sleep takes. Which spans are slept for as long as they are,
and what becomes of others, depends on the clock of the host. -/
structure Timer where
  sleep : Span → Nat

namespace Timer

def wait (timer : Timer) (delay : Span) : Nat := if delay = .zero then 0 else timer.sleep delay

/-- Sleeps of up to so many ticks are as long as they should be, a started tick counted as a whole
one. -/
def Keeps (timer : Timer) (limit : Nat) : Prop :=
  ∀ delay : Span, delay.ceilMillis ≤ limit → timer.sleep delay = delay.ceilMillis

def standard : Timer := ⟨Span.waitMillis⟩

theorem standard_keeps : standard.Keeps Span.lastTick := by
  intro delay within
  have clock : Nat.pow 2 63 = 9223372036854775808 := rfl
  have room : ¬ Nat.pow 2 63 ≤ delay.seconds := by
    simp only [Span.ceilMillis, Span.lastTick, UInt64.size] at within
    rw [clock, Span.seconds, Span.perSecond]
    omega
  exact (if_neg room).trans (Nat.min_eq_left within)

@[simp] theorem wait_zero (timer : Timer) : timer.wait .zero = 0 := rfl

theorem Keeps.wait_eq {timer : Timer} {limit : Nat} (keeps : timer.Keeps limit) {delay : Span}
    (within : delay.ceilMillis ≤ limit) : timer.wait delay = delay.ceilMillis := by
  unfold wait
  split
  · rename_i none
    rw [none]
    rfl
  · exact keeps delay within

end Timer
end ReplicatedSpace
