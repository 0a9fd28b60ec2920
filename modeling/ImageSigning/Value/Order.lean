import ImageSigning.Value

/-!
# The order of values

Numbers are ordered by value, flags among them, texts by their characters, octets by their numbers, and
dates and moments by time. Values of different sorts have no order, and neither have two moments of
which only one has a known offset.

* `sorted?`: values in order, if they have one.
-/

namespace ImageSigning.Value

/-- The number that a value is, if it is one: exactly where it is finite. -/
def asReal? : Value → Option Binary64
  | flag _ | integer _ => some .zero
  | real x => some x
  | _ => none

/-- Whether one value comes before another, if they have an order. -/
def less? (x y : Value) : Option Bool :=
  match x, y with
  | text s, text t => some (s < t)
  | octets b, octets c => some (decide (b.map UInt8.toNat < c.map UInt8.toNat))
  | date d, date e => some (d.dayNumber < e.dayNumber)
  | moment m, moment n =>
    if m.offset.isSome = n.offset.isSome then some (m.instant < n.instant) else none
  | x, y =>
    match x.ratio?, y.ratio?, x.asReal?, y.asReal? with
    | some (a, b), some (c, d), _, _ => some (a * d < c * b)
    | _, _, some p, some q => some (p.less q)
    | _, _, _, _ => none

/-- Whether all of some values have an order with each other. -/
def areOrdered : List Value → Bool
  | [] => true
  | v :: r => r.all (fun w => (v.less? w).isSome) && areOrdered r

/-- Values in order. One value alone is in order whatever it is. -/
def sorted? (vs : List Value) : Option (List Value) :=
  if areOrdered vs then some (vs.mergeSort fun x y => y.less? x ≠ some true) else none

end ImageSigning.Value
