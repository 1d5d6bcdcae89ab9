import UrlRouter.Handler.Controller

namespace UrlRouter

inductive Invocation (φ σ : Type) where
  | func (f : φ)
  | target (target : Target φ σ)

namespace Invocation

variable {φ σ : Type}

def descriptor (i : Invocation φ σ) (route : Route φ) : String :=
  match i with
  | .func _ => "fn@" ++ route.name.text
  | .target t => t.descriptor

end Invocation

inductive InvocationError where
  | token (cause : TokenError)
  | target (cause : TargetError)

def InvocationError.message : InvocationError → String
  | .token cause => cause.message
  | .target cause => cause.message

def HandlerRef.invocation {φ σ : Type} (handlers : HandlerRegistry φ σ) (req : Request)
    (args : Args) : HandlerRef φ → Except InvocationError (Invocation φ σ)
  | .func f => .ok (.func f)
  | .target controller method =>
      match renderToken args controller, method.mapM (renderToken args) with
      | .error e, _ => .error (.token e)
      | .ok _, .error e => .error (.token e)
      | .ok controller, .ok method =>
          match handlers.target controller method req with
          | .error e => .error (.target e)
          | .ok t => .ok (.target t)

def cacheKey (descriptor : String) (args : Args) : String :=
  descriptor ++ "(" ++ (Json.ofArgs args).text ++ ")"

end UrlRouter
