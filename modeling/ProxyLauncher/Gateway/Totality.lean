import ProxyLauncher.Gateway.Handling

/-!
# Every client is answered

Which requests and upstream proxies make an exception escape from the handlers of the free
gateway.  All other clients get one complete response.
-/

namespace ProxyLauncher.Gateway

open Python

variable {library : Library} {dumps : Json → String} {api : GatewayApi} {relay : ConnectRelay}
  {attempts : ℕ → Attempt} {tunnelFails : Bool} {clock : ℚ} {stream : Bytes} {request : Request}
  {fault : Fault} {α β : Type}

/-- The faults of a request that is not well-formed or does not end. -/
def Guarded (result : Except Fault α) : Prop :=
  ∀ fault, result = .error fault → fault = .valueError ∨ fault = .incompleteRead

/-- A computation only raises what is caught when its parts do. -/
theorem Guarded.bind {result : Except Fault α} {rest : α → Except Fault β}
    (first : Guarded result) (later : ∀ value, Guarded (rest value)) : Guarded (result >>= rest) := by
  intro fault failed
  cases shape : result with
  | error error =>
      rw [shape] at failed
      obtain rfl : error = fault := Except.error.inj failed
      exact first error shape
  | ok value =>
      rw [shape] at failed
      exact later value fault failed

/-- Connections to upstream proxies are opened and closed; the last one stays open on success. -/
structure Balanced (tried : List Action × Except Fault Unit) : Prop where
  quiet : ∀ action ∈ tried.1, action = .openUpstream ∨ action = .closeUpstream
  counted : tried.1.count .openUpstream =
    tried.1.count .closeUpstream + if tried.2.isOk = true then 1 else 0

/-- The ways in which the body of the relay ends: with a response, with an exception before there
is a tunnel, or with a tunnel. -/
inductive Run.Ends : Run → Prop where
  | answered {text : String} (response : IsResponse text) : Ends ⟨[.write text], none, false⟩
  | failed {actions : List Action} {fault : Fault} (tried : Balanced (actions, .error fault)) :
      Ends ⟨actions, some fault, false⟩
  | tunnelled {actions : List Action} {fault : Option Fault} (tried : Balanced (actions, .ok ()))
      (caught : ∀ found ∈ fault, found = .osError) :
      Ends ⟨actions ++ [.write established, .tunnel], fault, true⟩

end ProxyLauncher.Gateway
