/-
  THE OUTPUT OF A COMMAND on its way to the server (`Execute` of `executor/executor.go`, the frame
  limit of `device_websocket` in `app/websocket/router.py`).

  The agent cuts an output at `maxOutputBytes` BYTES, wherever in a character that is; the server
  drops the connection over a message of more than `MAX_WS_MESSAGE_BYTES` CHARACTERS.  In between
  stands `encoding/json`, which writes up to six characters for a byte.

  * `execute` — the result that is sent; `resultText` — the message as it is written.
  * `length_resultText` — its length, from the runes of the output.
  * `resultText_fits_iff` — exactly which outputs get through; `fits_of_bytes` and `fits_of_plain`
    say what that means for short outputs and for plain text.
-/
import Dtsys.Agent.Messages
import Dtsys.Agent.Payloads
import Dtsys.Server.Router

namespace Dtsys

namespace Agent

/-! ## `Execute` -/

/-- `maxOutputBytes`. -/
def maxOutputBytes : Nat := 1 * 1024 * 1024

/-- `"\n[output truncated]"`. -/
def truncationMark : List UInt8 := "\n[output truncated]".toList.flatMap String.utf8EncodeChar

/-- `output` after the cap. -/
def cappedOutput (out : List UInt8) : List UInt8 :=
  if maxOutputBytes < out.length then out.take maxOutputBytes ++ truncationMark else out

/-- The cases of the `switch`. -/
def commandTypes : List String :=
  ["shell", "reboot", "update_check", "sync_time", "screenshot", "request_process_list",
    "diagnostics"]

/-- What a case returns: what was printed, the exit code, and whether there was an error. -/
structure Ran where
  out : List UInt8
  exitCode : Int
  failed : Bool

/-- An error is never reported as success. -/
def Ran.reportedCode (ran : Ran) : Int := if ran.failed ∧ ran.exitCode = 0 then 1 else ran.exitCode

/-- `Execute`. -/
def execute (cmd : IncomingCommand) (ran : Ran) : CommandResultData :=
  if cmd.commandType ∈ commandTypes then
    { commandId := .ofString cmd.commandId, exitCode := ran.reportedCode,
      output := runes (cappedOutput ran.out) }
  else
    { commandId := .ofString cmd.commandId, exitCode := 1,
      output := .ofString ("unknown command type: " ++ cmd.commandType) }

/-! ## The message -/

/-- `json.NewEncoder(w).Encode(Message{Type: "command_result", Data: d})`, with its line end. -/
def resultText (d : CommandResultData) : List Char :=
  "\x7b\"type\":\"command_result\",\"data\":\x7b\"command_id\":".toList ++
    encodeString d.commandId ++ ",\"exit_code\":".toList ++ (toString d.exitCode).toList ++
    ",\"output\":".toList ++ encodeString d.output ++ "\x7d\x7d\n".toList

/-- The frame the server receives. -/
def resultFrame (d : CommandResultData) : Incoming :=
  ⟨(resultText d).length, some (clientMessage "command_result" d.encode)⟩

/-- The characters around the output. -/
def framing (commandId : GoString) (exitCode : Int) : Nat :=
  74 + (encodeString commandId).length + (toString exitCode).toList.length

/-- How long the message is. -/
theorem length_resultText (d : CommandResultData) :
    (resultText d).length = framing d.commandId d.exitCode +
      (d.output.length + 5 * d.output.countP GoRune.isLong + d.output.countP GoRune.isShort) := by
  have hhead : "\x7b\"type\":\"command_result\",\"data\":\x7b\"command_id\":".toList.length = 46 := rfl
  have hcode : ",\"exit_code\":".toList.length = 13 := rfl
  have hout : ",\"output\":".toList.length = 10 := rfl
  have hend : "\x7d\x7d\n".toList.length = 3 := rfl
  unfold resultText framing
  simp only [List.length_append, hhead, hcode, hout, hend, length_encodeString d.output]
  omega

/-! ## What gets through -/

/-- A message that fits is handled, and the next one read. -/
theorem receiveLoop_fits (E : Env) (ws : Socket) (rest : List Incoming)
    {d : CommandResultData} (h : (resultText d).length ≤ Server.maxWsMessageBytes) :
    Server.receiveLoop E ws (resultFrame d :: rest) = (do
      Server.receive E ws (clientMessage "command_result" d.encode)
      Server.receiveLoop E ws rest) := by
  show (if Server.maxWsMessageBytes < (resultText d).length then _ else _) = _
  rw [if_neg (by omega)]
  rfl

/-- One that does not fit ends the connection. -/
theorem receiveLoop_closes (E : Env) (ws : Socket) (rest : List Incoming)
    {d : CommandResultData} (h : Server.maxWsMessageBytes < (resultText d).length) :
    Server.receiveLoop E ws (resultFrame d :: rest) = pure () := by
  show (if Server.maxWsMessageBytes < (resultText d).length then _ else _) = _
  rw [if_pos h]

/-- A command of a known type is run. -/
theorem execute_known {cmd : IncomingCommand} (hknown : cmd.commandType ∈ commandTypes) (ran : Ran) :
    execute cmd ran =
      ⟨.ofString cmd.commandId, ran.reportedCode, runes (cappedOutput ran.out)⟩ := by
  rw [execute, if_pos hknown]

/-- What the output becomes in the message: a character for each rune, five more for those written
    by their number, one more for those with a short escape. -/
def outputChars (out : List UInt8) : Nat :=
  (runes (cappedOutput out)).length + 5 * (runes (cappedOutput out)).countP GoRune.isLong +
    (runes (cappedOutput out)).countP GoRune.isShort

/-- The length of the message: what frames it, and the characters of its output. -/
theorem length_result {cmd : IncomingCommand} (hknown : cmd.commandType ∈ commandTypes) (ran : Ran) :
    (resultText (execute cmd ran)).length =
      framing (.ofString cmd.commandId) ran.reportedCode + outputChars ran.out := by
  rw [length_resultText, execute_known hknown]
  rfl

/-- **The result of a command gets through** exactly when the runes of its capped output, with their
    escapes, fit into what the frame leaves.

    The cap is on the bytes of the output and the limit on the characters of the message, where a byte may be six.
    The length is computed exactly, rune by rune. -/
theorem resultText_fits_iff {cmd : IncomingCommand} (hknown : cmd.commandType ∈ commandTypes)
    (ran : Ran) :
    (resultText (execute cmd ran)).length ≤ Server.maxWsMessageBytes ↔
      framing (.ofString cmd.commandId) ran.reportedCode + outputChars ran.out ≤
        Server.maxWsMessageBytes := by
  rw [length_result hknown]

/-- The command of the examples. -/
def shellCommand : IncomingCommand := ⟨"3f2504e0-4f89-41d3-9a0c-0305e82c3301", "shell", []⟩

/-- The cap cuts in the second of two parts. -/
theorem cappedOutput_append {plain tail : List UInt8} (hplain : plain.length ≤ maxOutputBytes)
    (hlong : maxOutputBytes < plain.length + tail.length) :
    cappedOutput (plain ++ tail) =
      plain ++ (tail.take (maxOutputBytes - plain.length) ++ truncationMark) := by
  rw [cappedOutput, List.length_append, if_pos hlong, List.take_append, List.take_of_length_le hplain,
    List.append_assoc]

/-- An escape, a newline, `<`, a byte that begins no rune, and `€`. -/
def tornTail : List UInt8 := [27, 10, 60, 255, 226, 130, 172]

/-- A program that prints one byte more than the cap, which leaves two bytes of the `€`: each of them becomes a
    replacement character. -/
theorem outputChars_torn {n : Nat} (hn : n + 6 = maxOutputBytes) :
    outputChars (List.replicate n 97 ++ tornTail) = n + 52 := by
  have hlength : (List.replicate n (97 : UInt8)).length = n := List.length_replicate
  have htorn : tornTail.length = 7 := rfl
  have hcap := cappedOutput_append (show (List.replicate n 97).length ≤ maxOutputBytes by omega)
    (show maxOutputBytes < (List.replicate n 97).length + tornTail.length by omega)
  rw [hlength, show maxOutputBytes - n = 6 by omega] at hcap
  have hrunes : runes (List.replicate n 97 ++ (tornTail.take 6 ++ truncationMark)) =
      List.replicate n (.char 'a') ++ runes (tornTail.take 6 ++ truncationMark) :=
    runes_replicate_ascii (by decide) _ n
  have htail : (runes (tornTail.take 6 ++ truncationMark)).length = 25 ∧
      (runes (tornTail.take 6 ++ truncationMark)).countP GoRune.isLong = 5 ∧
      (runes (tornTail.take 6 ++ truncationMark)).countP GoRune.isShort = 2 := by
    decide +kernel
  obtain ⟨hlen, hlong, hshort⟩ := htail
  rw [outputChars, hcap, hrunes, List.length_append, List.length_replicate, List.countP_append,
    List.countP_append, List.countP_replicate, List.countP_replicate, if_neg (by decide), if_neg (by decide),
    hlen, hlong, hshort]

/-- Output with every kind of rune, cut in the middle of one. -/
def tornRun : Ran := ⟨List.replicate 1048570 97 ++ tornTail, 1, true⟩

theorem resultText_fits_shell :
    shellCommand.commandType ∈ commandTypes ∧ outputChars tornRun.out = 1048622 ∧
      ((resultText (execute shellCommand tornRun)).length ≤ Server.maxWsMessageBytes ↔
        framing (.ofString shellCommand.commandId) tornRun.reportedCode + outputChars tornRun.out ≤
          Server.maxWsMessageBytes) := by
  have hout : tornRun.out = List.replicate 1048570 97 ++ tornTail := by rw [tornRun]
  refine ⟨by decide, ?_, resultText_fits_iff (by decide) tornRun⟩
  rw [hout, outputChars_torn (by rw [maxOutputBytes])]

/-- Six characters for a zero byte. -/
theorem outputChars_zeros {n : Nat} (hn : n ≤ maxOutputBytes) :
    outputChars (List.replicate n 0) = 6 * n := by
  have hcap : cappedOutput (List.replicate n 0) = List.replicate n 0 := by
    rw [cappedOutput, List.length_replicate, if_neg (by omega)]
  have hrunes : runes (List.replicate n 0) = List.replicate n (.char '\x00') := by
    have := runes_replicate_ascii (b := 0) (by decide) [] n
    rwa [List.append_nil, show runes [] = [] from rfl, List.append_nil] at this
  rw [outputChars]
  rw [hcap, hrunes, List.length_replicate, List.countP_replicate, List.countP_replicate,
    if_pos (by decide), if_neg (by decide)]
  omega

/-- Enough zeros are too long, since each is written in six characters. -/
theorem zeros_too_long {cmd : IncomingCommand} (hknown : cmd.commandType ∈ commandTypes) {n : Nat}
    (hlong : 699051 ≤ n) (hn : n ≤ maxOutputBytes) (code : Int) (failed : Bool) :
    ¬ (resultText (execute cmd ⟨List.replicate n 0, code, failed⟩)).length ≤
      Server.maxWsMessageBytes := by
  have hmax : Server.maxWsMessageBytes = 4194304 := rfl
  have hchars : outputChars (Ran.out ⟨List.replicate n 0, code, failed⟩) = 6 * n :=
    outputChars_zeros hn
  rw [length_result hknown, hchars]
  omega

/-- `head -c 700000 /dev/zero`: well below the cap, and too long for the server. -/
theorem zeros_do_not_fit :
    shellCommand.commandType ∈ commandTypes ∧
      ¬ (resultText (execute shellCommand ⟨List.replicate 700000 0, 0, false⟩)).length ≤
        Server.maxWsMessageBytes :=
  ⟨by decide, zeros_too_long (by decide) (by omega) (by unfold maxOutputBytes; omega) 0 false⟩

/-! ## What that means -/

theorem length_cappedOutput_le (out : List UInt8) :
    (cappedOutput out).length ≤ maxOutputBytes + 19 := by
  rw [cappedOutput]
  split
  · have hmark : truncationMark.length = 19 := by decide
    rw [List.length_append, List.length_take, hmark]
    omega
  · omega

/-- Any output of up to 699,000 bytes gets through, with an id and an exit code of any usual size. -/
theorem fits_of_bytes {cmd : IncomingCommand} (hknown : cmd.commandType ∈ commandTypes) {ran : Ran}
    (hframe : framing (.ofString cmd.commandId) ran.reportedCode ≤ 300)
    (hbytes : ran.out.length ≤ 699000) :
    (resultText (execute cmd ran)).length ≤ Server.maxWsMessageBytes := by
  have hmax : Server.maxWsMessageBytes = 4194304 := rfl
  have hcap : cappedOutput ran.out = ran.out := by
    rw [cappedOutput, if_neg (by rw [show maxOutputBytes = 1048576 from rfl]; omega)]
  have hrunes := length_runes_le ran.out
  have hescapes := length_encodeString_le (runes ran.out)
  rw [length_encodeString] at hescapes
  rw [length_result hknown]
  rw [outputChars, hcap]
  omega

/-- Text without escapes gets through, however much of it there is. -/
theorem fits_of_plain {cmd : IncomingCommand} (hknown : cmd.commandType ∈ commandTypes) {ran : Ran}
    (hframe : framing (.ofString cmd.commandId) ran.reportedCode ≤ 300)
    (hplain : ∀ r ∈ runes (cappedOutput ran.out), r.isLong = false ∧ r.isShort = false) :
    (resultText (execute cmd ran)).length ≤ Server.maxWsMessageBytes := by
  have hmax : Server.maxWsMessageBytes = 4194304 := rfl
  have hout : maxOutputBytes = 1048576 := rfl
  have hlong : (runes (cappedOutput ran.out)).countP GoRune.isLong = 0 :=
    List.countP_eq_zero.mpr fun r hr => by simp [(hplain r hr).1]
  have hshort : (runes (cappedOutput ran.out)).countP GoRune.isShort = 0 :=
    List.countP_eq_zero.mpr fun r hr => by simp [(hplain r hr).2]
  have hrunes := length_runes_le (cappedOutput ran.out)
  have hcap := length_cappedOutput_le ran.out
  rw [length_result hknown]
  rw [outputChars]
  omega

end Agent

end Dtsys
