import VmBridge.Binding.Execute
/-! What a dispatch adds to the work: a line before it, a line or a complaint after it, and the
exit status. -/
namespace VmBridge

namespace Binding
variable {κ σ π : Type}

def statusOf : Except Fault Unit → Int
  | .ok () => 0
  | .error e => e.exitCode

def Request.epilogue (r : Request) : Except Fault Unit → List (Effect κ)
  | .ok () => [.out (Text.Utf8.encode r.completion)]
  | .error e =>
    .log ⟨.error, .binding, s!"{r.action.word} {r.deviceId} failed: {e.message}"⟩ ::
      .err (Text.Utf8.encode (e.message ++ "\n")) ::
      if e.isRetryable then [.err (Text.Utf8.encode retryNote)] else []

theorem dispatchRun (b : Backend κ σ π) (policy : Sharing.Policy) (r : Request) (s : σ) :
    let worked := (b.execute policy r).run s
    let ran := (b.dispatch policy r).run s
    ran.result = .ok (statusOf worked.result) ∧
      ran.trace = .out (Text.Utf8.encode r.announcement) ::
        (worked.trace ++ r.epilogue worked.result) := by
  unfold Backend.dispatch
  rcases run : (b.execute policy r).run s with ⟨e | _, s', t⟩
  · cases retry : e.isRetryable <;>
      simp [Act.runBind, Act.print, Act.log, Act.complain, run, retry, statusOf, Request.epilogue]
  · simp [Act.runBind, Act.print, run, statusOf, Request.epilogue]

section Epilogue
variable (r : Request)

end Epilogue
end Binding
end VmBridge
