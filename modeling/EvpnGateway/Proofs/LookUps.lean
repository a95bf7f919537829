import EvpnGateway.Proofs.Commands
import Mathlib.Data.List.TakeWhile
/-!
# Looking for links

The tool that is asked for a link may not start, it may fail, and it may write anything. Its exit
code and its output decide what a look-up answers.

* `isBlankText_trim`: trimming leaves something of every text that is not blank;
* `LinkRecord.Describes`: the link that a record describes;
* `LookUp`: what a look-up answers, by what came of its command; **`lookUp`**: every look-up with
  the tool does so.
-/

namespace EvpnGateway

/-! ## Blank texts -/

theorem mem_dropWhile_of_not {α : Type} {p : α → Bool} {item : α} {items : List α}
    (hmem : item ∈ items) (h : p item = false) : item ∈ items.dropWhile p := by
  rw [← List.takeWhile_append_dropWhile (p := p) (l := items), List.mem_append] at hmem
  refine hmem.resolve_left fun htaken => ?_
  exact absurd (List.mem_takeWhile_imp htaken) (by simp [h])

theorem isBlankText_trim (text : String) : isBlankText (trim text) = isBlankText text := by
  rw [Bool.eq_iff_iff]
  simp only [isBlankText, trim, trimChars, String.toList_ofList, List.all_eq_true,
    List.mem_reverse]
  constructor
  · -- a character that is no blank is still there after both ends were trimmed
    intro h c hc
    by_contra hblank
    rw [Bool.not_eq_true] at hblank
    have hkept : c ∈ (text.toList.dropWhile isBlank).reverse.dropWhile isBlank :=
      mem_dropWhile_of_not (List.mem_reverse.mpr (mem_dropWhile_of_not hc hblank)) hblank
    exact nomatch hblank.symm.trans (h c hkept)
  · intro h c hc
    have hrest := (List.dropWhile_sublist _).subset hc
    exact h c ((List.dropWhile_sublist _).subset (List.mem_reverse.mp hrest))

theorem isBlankText_outputText (bytes : List UInt8) :
    isBlankText (outputText bytes) = isBlankText (Utf8.decodeLossy bytes) := isBlankText_trim _

/-! ## Records -/

theorem LinkRecord.address_link {record : LinkRecord} {mac : MacAddress} :
    record.link.address = some mac ↔
      ∃ text, record.address = some text ∧ MacAddress.parse text = .ok mac := by
  have hparse : ∀ text : String, MacAddress.parse text = .ok mac ↔
      MacAddress.read? text.toList = some mac := by
    intro text
    unfold MacAddress.parse
    cases MacAddress.read? text.toList <;> simp
  simp only [link, Option.bind_eq_some_iff, hparse]

/-- What a record says of a link. An address that cannot be read counts as none. -/
structure LinkRecord.Describes (record : LinkRecord) (link : LiveLink) : Prop where
  name : link.name = record.name
  index : link.index = record.index
  kind : link.kind = record.kind
  mtu : link.mtu = record.mtu
  address : ∀ mac, link.address = some mac ↔
    ∃ text, record.address = some text ∧ MacAddress.parse text = .ok mac
  operState : link.operState = record.operState

theorem LinkRecord.link_eq_iff {record : LinkRecord} {link : LiveLink} :
    record.link = link ↔ record.Describes link := by
  constructor
  · rintro rfl
    exact ⟨rfl, rfl, rfl, rfl, fun _ => address_link, rfl⟩
  · intro h
    have haddress : record.link.address = link.address :=
      Option.ext fun mac => address_link.trans (h.address mac).symm
    obtain ⟨name, index, kind, mtu, address, operState⟩ := link
    obtain ⟨rfl, rfl, rfl, rfl, -, rfl⟩ := h
    exact congrArg (LiveLink.mk _ _ _ _ · _) haddress

/-! ## Answers -/

/-- The process ran and did not exit with zero. -/
def ProcessReport.Failed : ProcessReport → Prop
  | notStarted _ => False
  | exited code _ _ => code ≠ 0
  | killed .. => True

/-- The records in an output, without the blanks around them. -/
def linkRecords (stdout : List UInt8) : Except Json.Failure (List LinkRecord) :=
  Json.decode (.listOf readLinkRecord) (outputText stdout)

/-- What a look-up with the tool answers, by what came of its command. -/
structure LookUp (name : String) (report : ProcessReport) (answer : Except GatewayError LiveLink) :
    Prop where
  missing : answer = .error (.notFound name) ↔ report.Failed ∨
    ∃ stdout stderr, report = .exited 0 stdout stderr ∧
      (isBlankText (Utf8.decodeLossy stdout) ∨ linkRecords stdout = .ok [])
  notStarted : ∀ command reason, answer = .error (.commandNotStarted command reason) ↔
    (Command.linkShow name).text = command ∧ report = .notStarted reason
  unreadable : ∀ reason, answer = .error (.linkReport name reason) ↔
    ∃ stdout stderr, report = .exited 0 stdout stderr ∧
      ¬ isBlankText (Utf8.decodeLossy stdout) ∧
      ∃ failure, linkRecords stdout = .error failure ∧
        failure.describe (outputText stdout) = reason
  found : ∀ link, answer = .ok link ↔ ∃ stdout stderr, report = .exited 0 stdout stderr ∧
    ¬ isBlankText (Utf8.decodeLossy stdout) ∧
    ∃ record rest, linkRecords stdout = .ok (record :: rest) ∧ record.Describes link
  /-- There are no other errors. -/
  errors : ∀ error, answer = .error error → error = .notFound name ∨
    (∃ command reason, error = .commandNotStarted command reason) ∨
    ∃ reason, error = .linkReport name reason

namespace LookUp

variable {name : String} {report : ProcessReport}

theorem of_notStarted (name reason : String) : LookUp name (.notStarted reason)
    (.error (.commandNotStarted (Command.linkShow name).text reason)) := by
  constructor <;> simp [ProcessReport.Failed]

theorem of_failed (h : report.Failed) : LookUp name report (.error (.notFound name)) := by
  have hexit : ∀ stdout stderr, report ≠ .exited 0 stdout stderr := by
    rintro stdout stderr rfl
    exact h rfl
  have hstart : ∀ reason, report ≠ .notStarted reason := by
    rintro reason rfl
    exact h
  constructor <;> simp [h, hexit, hstart]

theorem of_exited (name : String) (stdout stderr : List UInt8) :
    LookUp name (.exited 0 stdout stderr) (readLinkReport name (outputText stdout)) := by
  have hran : ¬ (ProcessReport.exited 0 stdout stderr).Failed := fun h => h rfl
  unfold readLinkReport
  rw [isBlankText_outputText, ← linkRecords]
  by_cases hblank : isBlankText (Utf8.decodeLossy stdout)
  · constructor <;> simp [hran, hblank]
  · rw [if_neg hblank]
    rcases hrecords : linkRecords stdout with failure | _ | ⟨record, rest⟩ <;>
      constructor <;> simp [hran, hblank, hrecords, LinkRecord.link_eq_iff]

end LookUp

/-- The answer to a look-up, by the outcome of its command. -/
def answerLookUp (name : String) : Except GatewayError String → Except GatewayError LiveLink
  | .ok output => readLinkReport name output
  | .error (.commandFailed ..) => .error (.notFound name)
  | .error error => .error error

theorem linkByName_eq (name : String) : Tools.linkByName name =
    (executeChecked (Command.linkShow name).text >>= fun outcome =>
      .done (answerLookUp name outcome)) := by
  refine congrArg (executeChecked _ >>= ·) (funext fun outcome => ?_)
  rcases outcome with error | output
  · cases error <;> rfl
  · rfl

theorem lookUp_answer (name : String) (report : ProcessReport) : LookUp name report
    (answerLookUp name (Attempt.outcome ⟨⟨Command.linkShow name, id⟩, report⟩)) := by
  cases report with
  | notStarted reason => exact .of_notStarted name reason
  | killed signal stdout stderr => exact .of_failed trivial
  | exited code stdout stderr =>
    by_cases hcode : code = 0
    · subst hcode
      exact .of_exited name stdout stderr
    · have houtcome : Attempt.outcome ⟨⟨Command.linkShow name, id⟩, .exited code stdout stderr⟩ =
          .error (.commandFailed (Command.linkShow name).text code
            (CommandResult.combinedOutput ⟨code, outputText stdout, outputText stderr⟩)) :=
        if_neg (by simpa [CommandResult.success] using hcode)
      rw [houtcome]
      exact .of_failed hcode

/-- **What a look-up with the tool answers is decided by what comes of its command**: a link, that
there is none, or that this could not be found out. -/
theorem lookUp {σ : Type} (run : Interaction.Handler String (fun _ => ProcessReport) σ)
    (name : String) (state : σ) :
    LookUp name (start run (Command.linkShow name).text state).1
      ((Tools.linkByName name).run run state).result := by
  have hshow := congrArg Interaction.Outcome.result
    (run_executeChecked run ⟨Command.linkShow name, id⟩ state)
  rw [linkByName_eq, Interaction.run_bind]
  dsimp only [Interaction.run] at hshow ⊢
  rw [hshow]
  exact lookUp_answer name _

end EvpnGateway
