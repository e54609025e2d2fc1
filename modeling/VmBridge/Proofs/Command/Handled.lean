import VmBridge.Proofs.Notes
import VmBridge.Proofs.Text.Lossy
import VmBridge.Verb.LinuxHost
/-! What the Linux host makes of a command. The runner is asked once; what it gives decides between
passing on all that the child wrote and a fault that tells what the child wrote to its standard
error. -/
namespace VmBridge
open Text (Bytes)

namespace Command.WaitStatus

def Closed (text : String) : Prop := ∃ c, text.toList.getLast? = some c ∧ c ≠ ' '

theorem closedAppend {text : String} (front : String) (closed : Closed text) :
    Closed (front ++ text) := by
  obtain ⟨c, last, other⟩ := closed
  refine ⟨c, ?_, other⟩
  rw [String.toList_append, List.getLast?_append, last]
  rfl

theorem closedDigits {base : Nat} (two : 1 < base) (n : Nat) :
    Closed (String.ofList (Nat.toDigits base n)) := by
  unfold Closed
  rw [String.toList_ofList, Nat.toDigits_eq_if two]
  split
  · exact ⟨_, rfl, Nat.digitChar_ne ' ' rfl⟩
  · exact ⟨_, List.getLast?_concat, Nat.digitChar_ne ' ' rfl⟩

theorem closedNumber (n : Nat) : Closed (toString n) := by
  rw [Nat.toString_eq_ofList_toDigits]
  exact closedDigits (by decide) n

theorem closedTitle (n : Nat) : Closed (signalTitle n) := by
  unfold signalTitle
  split
  · exact ⟨'0', rfl, by decide⟩
  · split
    · exact closedAppend _ ⟨')', rfl, by decide⟩
    · exact closedNumber _

theorem closedText (s : WaitStatus) : Closed s.text := by
  unfold text
  split
  · exact closedAppend _ (closedNumber _)
  · split
    · exact closedAppend _ ⟨')', rfl, by decide⟩
    · rw [String.append_empty]
      exact closedAppend _ (closedTitle _)
  · exact closedAppend _ (closedTitle _)
  · split
    · exact ⟨')', rfl, by decide⟩
    · exact closedAppend _ (closedAppend "0x" (closedDigits (by decide) _))

end Command.WaitStatus

theorem Fault.messageTells {line status text : String}
    (closed : Command.WaitStatus.Closed status) :
    (": " ++ text).toList <:+ (Fault.commandFailed line status text).message.toList ↔
      text ≠ "" := by
  have parts : (Fault.commandFailed line status text).message.toList =
      (s!"`{line}` failed with " ++ status).toList ++ (stderrNote text).toList :=
    String.toList_append
  rw [parts]
  constructor
  · rintro ends rfl
    obtain ⟨c, last, other⟩ := Command.WaitStatus.closedAppend s!"`{line}` failed with " closed
    obtain ⟨front, same⟩ := ends
    have blank := congrArg List.getLast? same
    rw [show (stderrNote "").toList = [] from rfl, List.append_nil, last,
      List.getLast?_append] at blank
    exact other (Option.some.inj blank).symm
  · intro filled
    rw [stderrNote, if_neg filled]
    exact List.suffix_append _ _

namespace Command
variable {κ σ : Type}

structure Tells (stderr : Bytes) (text : String) : Prop where
  read : ∃ whole, Text.Utf8.Decodes stderr whole ∧ Text.Trimmed whole text.toList
  valid : ∀ whole, stderr = Text.Utf8.encode whole → Text.Trimmed whole.toList text.toList

theorem complaintTells (stderr : Bytes) : Tells stderr (complaint stderr) := by
  have read : Text.Trimmed (Text.Utf8.lossyChars stderr) (complaint stderr).toList := by
    rw [complaint, Text.trim, String.toList_ofList, Text.Utf8.lossy, String.toList_ofList]
    exact Text.trimCharsTrimmed _
  refine ⟨⟨_, Text.Utf8.scanDecodes stderr, read⟩, ?_⟩
  rintro whole rfl
  rwa [← Text.Utf8.decodesLossy.mp (Text.Utf8.encodeDecodes whole)] at read

example : complaint [0x20, 0xF0, 0x9F, 0x0A, 0x41, 0x0A, 0x20] = "\uFFFD\nA" := by decide +kernel

def Runner.noted (runner : Runner κ σ) : Runner (κ ⊕ Command) σ := fun c =>
  (runner c).noting fun _ => c

end Command

namespace Linux
variable {κ σ : Type} {l : Linux κ σ} {c : Command} {s s' : σ} {t : List (Effect κ)}

def noted (l : Linux κ σ) : Linux (κ ⊕ Command) σ where
  accounts := l.accounts
  driver := ⟨fun call => .inl (l.driver.recorded call), l.driver.openDevice, l.driver.request⟩
  controlDevice := l.controlDevice
  runner := l.runner.noted

theorem notedEchoes (l : Linux κ σ) (c : Command) : Act.Echoes (l.noted.run c) (l.run c) := by
  refine Act.echoBind (Act.echoBind (Act.echoNoting _ _) fun output => ?_) fun output => ?_
  · split
    · exact Act.echoPure output
    · exact Act.echoBind (Act.echoLog _ _ _) fun _ => Act.echoFail _
  · exact Act.echoBind (fun _ => rfl) fun _ => fun _ => rfl

theorem runFailed {e : Fault} (ran : (l.runner c).run s = ⟨.error e, s', t⟩) :
    (l.run c).run s = ⟨.error e, s', t⟩ := Act.runError (Act.runError ran)

theorem runSucceeded {output : Command.Output} (ran : (l.runner c).run s = ⟨.ok output, s', t⟩)
    (success : output.status.raw = 0) :
    (l.run c).run s = ⟨.ok (), s', t ++ [.out output.stdout, .err output.stderr]⟩ := by
  have checked : (Command.runChecked l.runner c).run s = ⟨.ok output, s', t⟩ := by
    rw [Command.runChecked, Act.runOk ran, if_pos (by simpa [Command.WaitStatus.isSuccess])]
    simp
  exact Act.runOk checked

def exitRecord (c : Command) (output : Command.Output) : Log.Record :=
  ⟨.warn, .command, s!"`{c.line}` exited with {output.status.text}"⟩

theorem runRefused {output : Command.Output} (ran : (l.runner c).run s = ⟨.ok output, s', t⟩)
    (failure : output.status.raw ≠ 0) : (l.run c).run s =
      ⟨.error (.commandFailed c.line output.status.text (Command.complaint output.stderr)), s',
        t ++ [.log (exitRecord c output)]⟩ := by
  refine Act.runError ?_
  rw [Command.runChecked, Act.runOk ran, if_neg (by simpa [Command.WaitStatus.isSuccess])]
  rfl

structure Handled (c : Command) (asked : Ran κ σ Command.Output) (ran : Ran κ σ Unit) : Prop where
  state : ran.state = asked.state
  failed : ∀ e, asked.result = .error e → ran.result = .error e ∧ ran.trace = asked.trace
  succeeded : ∀ output, asked.result = .ok output → output.status.raw = 0 →
    ran.result = .ok () ∧ ran.trace = asked.trace ++ [.out output.stdout, .err output.stderr]
  refused : ∀ output, asked.result = .ok output → output.status.raw ≠ 0 →
    ran.trace = asked.trace ++ [.log (exitRecord c output)] ∧
      ∃ text, Command.Tells output.stderr text ∧
        ran.result = .error (.commandFailed c.line output.status.text text) ∧
        ((": " ++ text).toList <:+
          (Fault.commandFailed c.line output.status.text text).message.toList ↔ text ≠ "")

theorem runHandled (l : Linux κ σ) (c : Command) (s : σ) :
    Handled c ((l.runner c).run s) ((l.run c).run s) := by
  rcases Act.runCases (l.runner c) s with ⟨output, s', t, asked⟩ | ⟨e, s', t, asked⟩
  · rw [asked]
    by_cases success : output.status.raw = 0
    · rw [runSucceeded asked success]
      refine ⟨rfl, nofun, ?_, ?_⟩
      · rintro _ ⟨⟩ _
        exact ⟨rfl, rfl⟩
      · rintro _ ⟨⟩ failure
        exact absurd success failure
    · rw [runRefused asked success]
      refine ⟨rfl, nofun, ?_, ?_⟩
      · rintro _ ⟨⟩ zero
        exact absurd zero success
      · rintro _ ⟨⟩ _
        exact ⟨rfl, _, Command.complaintTells output.stderr, rfl,
          Fault.messageTells output.status.closedText⟩
  · rw [asked, runFailed asked]
    refine ⟨rfl, ?_, nofun, nofun⟩
    rintro _ ⟨⟩
    exact ⟨rfl, rfl⟩

theorem notesOnce (l : Linux κ σ) (c : Command) (s : σ) :
    Trace.notes ((l.noted.run c).run s).trace = [c] := by
  have noted : Trace.notes ((l.noted.runner c).run s).trace = [c] :=
    (Act.yieldsNoting (fun _ => c) (l.runner c) s).seen
  have handled := runHandled l.noted c s
  cases asked : ((l.noted.runner c).run s).result with
  | error e => rw [(handled.failed e asked).2, noted]
  | ok output =>
    by_cases success : output.status.raw = 0
    · rw [(handled.succeeded output asked success).2, Trace.notesAppend, noted]
      rfl
    · rw [(handled.refused output asked success).1, Trace.notesAppend, noted]
      rfl

/-- A host asks its runner for the command once, whatever runner it has and whatever comes of it.
Only the whole status word 0 passes on what the child wrote; any other is a fault that tells it. -/
theorem commandPassedOnOrTold (l : Linux κ σ) (c : Command) (s : σ) :
    Act.Echoes (l.noted.run c) (l.run c) ∧ Trace.notes ((l.noted.run c).run s).trace = [c] ∧
      Handled c ((l.runner c).run s) ((l.run c).run s) :=
  ⟨notedEchoes l c, notesOnce l c s, runHandled l c s⟩

end Linux
end VmBridge
