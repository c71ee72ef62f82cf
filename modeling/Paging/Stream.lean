import Paging.Collector

/-!
# Paging.Stream — results read one element at a time

A stream answers its pulls in order: with a value, with the end, or with a fault.  An end is an
answer like the others, so a later pull may give a value again.  `page` reads the page asked for and
then, if the kept page may be the answer, one more element to learn whether the page is the last.
-/

namespace Paging

/-- The answer to one pull. -/
inductive Pull (α : Type)
  | value (x : α)
  | stop
  | raise (fault : Fault)

/-- A stream of pulls and the number of the pull that comes next. -/
structure Stream (α : Type) where
  event : Nat → Pull α
  position : Nat := 0

namespace Stream

variable {α : Type}

/-! ## Making streams -/

/-- The stream that gives the listed answers and then the end for ever. -/
def ofPulls (pulls : List (Pull α)) : Stream α :=
  let events := pulls.toArray
  { event := fun i => events.getD i .stop }

/-- The stream of the elements of a list. -/
def ofList (xs : List α) : Stream α :=
  let elements := xs.toArray
  { event := fun i => match elements[i]? with
      | some x => .value x
      | none => .stop }

/-- How many integers an arithmetic progression holds before it passes `stop`. -/
def progressionLength (start stop step : Int) : Nat :=
  if 0 < step then ((stop - start + step - 1) / step).toNat
  else if step < 0 then ((start - stop - step - 1) / -step).toNat
  else 0

/-- The integers from `start` on in steps of `step`, up to but not including `stop`. -/
def progression (start stop step : Int) : Except Fault (Stream Int) :=
  if step = 0 then .error (.raised .valueError "range() arg 3 must not be zero")
  else
    let length := progressionLength start stop step
    .ok { event := fun i => if i < length then .value (start + step * i) else .stop }

/-- The natural numbers, without end. -/
def naturals : Stream Int := { event := fun i => .value i }

/-- The stream with every value replaced by its image. -/
def map {β : Type} (f : α → β) (s : Stream α) : Stream β where
  event i := match s.event i with
    | .value x => .value (f x)
    | .stop => .stop
    | .raise fault => .raise fault
  position := s.position

/-! ## Reading -/

/-- The next answer, and the stream after it. -/
def pull (s : Stream α) : Pull α × Stream α :=
  (s.event s.position, { s with position := s.position + 1 })

/-- Up to `n` elements, and whether the end came before them. -/
def take : Nat → Stream α → Except Fault (List α × Bool) × Stream α
  | 0, s => (.ok ([], false), s)
  | n + 1, s => match s.pull with
    | (.value x, s) => match take n s with
      | (.ok (xs, stopped), s) => (.ok (x :: xs, stopped), s)
      | (.error fault, s) => (.error fault, s)
    | (.stop, s) => (.ok ([], true), s)
    | (.raise fault, s) => (.error fault, s)

/-- Feeds a collector until the page asked for is full or the stream ends.  `wanted` is the number
of elements that fill it. -/
def feed : Nat → Stream α → Collector α → Except Fault (Collector α) × Stream α
  | 0, s, c => (.ok c, s)
  | wanted + 1, s, c => match s.pull with
    | (.value x, s) =>
      let c := c.add x
      if c.isFull then (.ok c, s) else feed wanted s c
    | (.stop, s) => (.ok c, s)
    | (.raise fault, s) => (.error fault, s)

/-- One more pull, to find out whether anything follows. -/
def peek (s : Stream α) : Except Fault Bool × Stream α :=
  match s.pull with
  | (.value _, s) => (.ok false, s)
  | (.stop, s) => (.ok true, s)
  | (.raise fault, s) => (.error fault, s)

/-- The logical page asked for, and what is left of the stream. -/
def page (strategy : Strategy) (request : Request) (s : Stream α) :
    Except Fault (Page α) × Stream α :=
  match feed request.reach s (Collector.start strategy request) with
  | (.error fault, s) => (.error fault, s)
  | (.ok c, s) =>
    if c.keeps then match s.peek with
      | (.ok isLast, s) => (c.finish isLast, s)
      | (.error fault, s) => (.error fault, s)
    else (c.finish true, s)

end Stream

end Paging
