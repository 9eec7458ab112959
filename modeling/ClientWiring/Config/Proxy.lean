import ClientWiring.Config.Error
import ClientWiring.Number.Reading
set_option autoImplicit false

/-! Proxy addresses. The last colon of an address separates the host from the port, so a host may
itself hold colons; the host is not looked into, and the port is a number from 1 to 65535. -/

namespace ClientWiring

structure ProxyAddress where
  host : String
  port : Nat
  deriving DecidableEq, Repr

namespace ProxyAddress

def maxPort : Nat := 65535

def splitLastColon? (cs : List Char) : Option (List Char × List Char) :=
  let reversed := cs.reverse
  match reversed.dropWhile (· != ':') with
  | [] => none
  | _ :: before => some (before.reverse, (reversed.takeWhile (· != ':')).reverse)

def parse (address : String) : Except ConfigError ProxyAddress :=
  match splitLastColon? address.toList with
  | none => .error (.malformedProxy address)
  | some (host, port) =>
    if host.isEmpty || port.isEmpty then .error (.malformedProxy address)
    else
      match Number.readWhole port with
      | .error _ => .error (.proxyPortNotANumber address)
      | .ok n =>
        if 0 < n ∧ n ≤ maxPort then .ok ⟨String.ofList host, n.toNat⟩
        else .error (.proxyPortOutOfRange address)

end ProxyAddress

end ClientWiring
