/-
**Network nodes.**

A node is named by the number of its isolation domain and the number of its autonomous system,
written `<isd>-<as>`. Numbers of systems that fit 32 bits are written in decimal, greater ones as
three groups of hexadecimal digits: `1-ff00:0:110`.

* `Node`: a pair of numbers within their ranges;
* `Node.parse`: reads a name, with the cause when there is none to read;
* `Node.text`: the canonical name.
-/

import Wayfinder.Text.Blank
import Wayfinder.Text.Numeral

namespace Wayfinder

/-- How many numbers of systems there are: those of 48 bits. -/
abbrev systemCount : Nat := UInt16.size * UInt32.size

/-- A node of the network. -/
structure Node where
  isd : Nat
  asn : Nat
  isd_lt : isd < UInt16.size := by decide
  asn_lt : asn < systemCount := by decide
deriving DecidableEq, Repr

/-- Why a text names no node. -/
inductive NodeFault where
  | missingSeparator (text : String)
  | malformedDomain (text : String)
  | malformedSystem (text : String)
deriving DecidableEq, Repr

/-- The wording of a fault. -/
def NodeFault.message : NodeFault → String
  | .missingSeparator text => "malformed ISD-AS '" ++ text ++ "': expected <isd>-<as>"
  | .malformedDomain text => "malformed ISD in '" ++ text ++ "'"
  | .malformedSystem text => "malformed AS in '" ++ text ++ "'"

namespace Node

/-- A group of one to four hexadecimal digits. -/
def group? (digits : List Char) : Option Nat :=
  if 4 < digits.length then none else Numeral.value? 16 digits

/-- Three groups of hexadecimal digits between colons. -/
def grouped? (text : List Char) : Option Nat :=
  match text.span (· ≠ ':') with
  | (high, ':' :: rest) =>
    match rest.span (· ≠ ':') with
    | (middle, ':' :: low) => do
      let high ← group? high
      let middle ← group? middle
      let low ← group? low
      return (high * UInt16.size + middle) * UInt16.size + low
    | _ => none
  | _ => none

/-- The number of an autonomous system, in either notation. -/
def system? (text : List Char) : Option Nat :=
  if text.contains ':' then grouped? text
  else (Numeral.value? 10 text).filter (· < UInt32.size)

/-- The number of an isolation domain. -/
def domain? (text : List Char) : Option Nat :=
  (Numeral.value? 10 text).filter (· < UInt16.size)

/-- The node with the given numbers. -/
def ofNumbers (isd asn : Nat) (isd_lt : isd < UInt16.size) : Except NodeFault Node :=
  if h : asn < systemCount then .ok ⟨isd, asn, isd_lt, h⟩
  else .error (.malformedSystem (Numeral.decimal isd ++ "-" ++ Numeral.decimal asn))

/-- The node of a pair of numbers that were read, if they are in range. -/
def ofPair? (isd asn : Nat) : Option Node :=
  if h : isd < UInt16.size ∧ asn < systemCount then some ⟨isd, asn, h.1, h.2⟩ else none

/-- Reads a name. What stands before the first hyphen is the domain; a faulty domain is reported
before a faulty system. -/
def parse (text : String) : Except NodeFault Node :=
  match text.toList.span (· ≠ '-') with
  | (before, '-' :: after) =>
    match domain? before with
    | none => .error (.malformedDomain text)
    | some isd =>
      match (system? after).bind (ofPair? isd) with
      | some node => .ok node
      | none => .error (.malformedSystem text)
  | _ => .error (.missingSeparator text)

/-- Reads a name between blanks. -/
def parseTrimmed (text : String) : Except NodeFault Node :=
  parse (String.ofList (Text.trim text.toList))

/-- The number of a system in its canonical notation. -/
def systemText (asn : Nat) : List Char :=
  if asn < UInt32.size then Numeral.ofNat 10 asn
  else
    Numeral.ofNat 16 (asn / UInt32.size) ++
      ':' :: Numeral.ofNat 16 (asn / UInt16.size % UInt16.size) ++
      ':' :: Numeral.ofNat 16 (asn % UInt16.size)

/-- The canonical name, as characters. -/
def characters (node : Node) : List Char :=
  Numeral.ofNat 10 node.isd ++ '-' :: systemText node.asn

/-- The canonical name. -/
def text (node : Node) : String := String.ofList node.characters

instance : ToString Node := ⟨text⟩

/-- Nodes are ordered by domain, then by system. -/
def le (first second : Node) : Bool :=
  decide (first.isd < second.isd) || (first.isd == second.isd && decide (first.asn ≤ second.asn))

example : text ⟨1, 0xff0000000110, by decide, by decide⟩ = "1-ff00:0:110" := by decide +kernel

end Node

end Wayfinder
