import Provision.Text.Utf8

/-!
# Lines of what is received

A line ends with a line feed, before which there may be a carriage return. Lines are read at a place in
the data, and the place behind a line is known to lie behind the place where it begins.
-/

namespace Provision.Http

abbrev Behind (data : ByteArray) (start : Nat) : Type :=
  { place : Nat // start < place ∧ place ≤ data.size }

def Behind.further {data : ByteArray} {start : Nat} (next : Behind data start)
    (later : Behind data next.1) : Behind data start :=
  ⟨later.1, by have := next.2; have := later.2; omega⟩

namespace Line

def feed : UInt8 := 0x0A

def carriageReturn : UInt8 := 0x0D

def ending : ByteArray := ⟨#[carriageReturn, feed]⟩

def feed? (data : ByteArray) (start place : Nat) (reached : start ≤ place) :
    Option { found : Nat // start ≤ found ∧ found < data.size } :=
  if inside : place < data.size then
    if data[place] = feed then some ⟨place, reached, inside⟩
    else feed? data start (place + 1) (by omega)
  else none
termination_by data.size - place

/-- The line that begins at a place, without the line feed that ends it, and the place behind it. -/
def read? (data : ByteArray) (start : Nat) : Option (Bytes × Behind data start) :=
  (feed? data start start (Nat.le_refl start)).map fun found =>
    ((data.extract start found.1).data.toList, ⟨found.1 + 1, by have := found.2; omega⟩)

def bare (line : Bytes) : Bytes :=
  if line.getLast? = some carriageReturn then line.dropLast else line

end Line

end Provision.Http
