import Mathlib.Tactic.SplitIfs
import HexMonitor.Http.Site
import HexMonitor.Proofs.Wording

namespace HexMonitor.Http

theorem isHeaderValue_append (text text' : String) :
    isHeaderValue (text ++ text') = (isHeaderValue text && isHeaderValue text') := by
  simp [isHeaderValue]

theorem isHeaderValue_render (bytes : Bytes) : isHeaderValue (Hex.render bytes) = true := by
  simp only [isHeaderValue, Hex.render, Bytes.toCharacters, String.toList_ofList, List.all_eq_true,
    List.mem_map]
  rintro _ ⟨c, hc, rfl⟩
  have hd := Hex.isLowerDigit_of_mem_encode hc
  have hn : (Char.ofUInt8 c).toNat = c.toNat := rfl
  simp only [Hex.IsLowerDigit, UInt8.le_iff_toNat_le, UInt8.reduceToNat] at hd
  simp only [hn, Bool.or_eq_true, Bool.and_eq_true, decide_eq_true_eq]
  omega

theorem isHeaderValue_toString (n : Nat) : isHeaderValue (toString n) = true := by
  have hr : (toString n).toList = Nat.toDigits 10 n := Nat.toList_repr
  simp only [isHeaderValue, hr, List.all_eq_true]
  intro c hc
  have hd := Nat.isDigit_of_mem_toDigits (by decide) (by decide) hc
  have hn : c.toNat = c.val.toNat := rfl
  simp only [Char.isDigit, Bool.and_eq_true, decide_eq_true_eq, UInt32.le_iff_toNat_le] at hd
  obtain ⟨h₁, h₂⟩ := hd
  change 48 ≤ c.val.toNat at h₁
  change c.val.toNat ≤ 57 at h₂
  simp only [hn, Bool.or_eq_true, Bool.and_eq_true, decide_eq_true_eq]
  omega

theorem isHeaderValue_address (pc : UInt16) : isHeaderValue (Fault.address pc) = true := by
  rw [Fault.address, isHeaderValue_append, isHeaderValue_render]
  decide +kernel

/-- Every fault can be told in a header. -/
theorem isHeaderValue_message (fault : Fault) : isHeaderValue fault.message = true := by
  cases fault with
  | invalidOpcode opcode pc =>
    show isHeaderValue ("Invalid opcode 0x" ++ Hex.render [opcode] ++ " at "
      ++ Fault.address pc) = true
    simp only [isHeaderValue_append, isHeaderValue_render, isHeaderValue_address]
    decide +kernel
  | invalidRegister register pc =>
    show isHeaderValue ("Invalid register r" ++ toString register.toNat ++ " at "
      ++ Fault.address pc) = true
    simp only [isHeaderValue_append, isHeaderValue_toString, isHeaderValue_address]
    decide +kernel
  | truncated pc =>
    show isHeaderValue ("Instruction at " ++ Fault.address pc ++ " runs past the end of memory")
      = true
    simp only [isHeaderValue_append, isHeaderValue_address]
    decide +kernel

/-- The command that a request stands for, by its method, its path and the length of its body. -/
def Request.command? (r : Request) : Option Command :=
  if r.method = "POST" ∧ r.path = "/load/bin" ∧ r.body.length ≤ 2097152 then
    some (.loadBinary r.body)
  else if r.method = "POST" ∧ r.path = "/load/hex" ∧ r.body.length ≤ 2097152 then
    some (.loadHex r.body)
  else if r.method ∈ ["GET", "HEAD", "POST"] ∧ r.path = "/exec" then some .execute
  else if r.method ∈ ["GET", "HEAD"] ∧ r.path = "/dump" then some .dump
  else none

def Route.command? (route : Route) (body : Bytes) : Option Command :=
  match route with
  | loadBinary => if body.length ≤ uploadLimit then some (.loadBinary body) else none
  | loadHex => if body.length ≤ uploadLimit then some (.loadHex body) else none
  | execute => some .execute
  | dump => some .dump
  | landing | page => none

theorem Route.options_not_mem_methods (route : Route) : "OPTIONS" ∉ route.methods := by
  cases route <;> decide

theorem Request.command?_eq (r : Request) :
    r.command? = if r.method ∈ r.route.methods then r.route.command? r.body else none := by
  unfold Request.command? Request.route Route.ofPath Route.command? uploadLimit
  by_cases h₁ : r.path = "/load/bin"
  · simp [h₁, Route.methods, ite_and]
  by_cases h₂ : r.path = "/load/hex"
  · simp [h₂, Route.methods, ite_and]
  by_cases h₃ : r.path = "/exec"
  · simp [h₃, Route.methods]
  by_cases h₄ : r.path = "/dump"
  · simp [h₄, Route.methods]
  by_cases h₅ : r.path = "/"
  · simp [h₅]
  · simp [h₁, h₂, h₃, h₄, h₅]

/-- How an answer of the monitor is sent in response to a request. -/
def Renders (r : Request) (response : Response) : Except Rejection Reply → Prop
  | .ok reply =>
    response.status.number = 200 ∧
      response.body = (if r.method = "HEAD" then [] else reply.dump) ∧
      response.header? "content-type" = some "text/plain" ∧
      (∃ name, reply.phase.Named name ∧ response.header? "x-hexvm-phase" = some name) ∧
      response.header? "x-hexvm-halt" = reply.fault?.map (fun _ => "fault") ∧
      Option.Rel Fault.Worded reply.fault? (response.header? "x-hexvm-fault")
  | .error rejection =>
    response.status.number =
        (match rejection with
        | .invalidEncoding _ => 400
        | .programTooLarge .. => 413
        | .bufferTooSmall .. => 500) ∧
      (∃ text, rejection.Worded text ∧
        response.body = if r.method = "HEAD" then [] else Bytes.ofText text) ∧
      response.header? "content-type" = some "text/plain" ∧
      response.header? "x-hexvm-phase" = none ∧
      response.header? "x-hexvm-halt" = none ∧
      response.header? "x-hexvm-fault" = none

/-- `Serves requests responses answers`: the requests that stand for commands are sent the answers
to these, one each, and the others something else. -/
inductive Serves : List Request → List Response → List (Except Rejection Reply) → Prop
  | nil : Serves [] [] []
  | command {r : Request} {c : Command} {response : Response} {answer : Except Rejection Reply}
      {rs : List Request} {responses : List Response} {answers : List (Except Rejection Reply)}
      (hc : r.command? = some c) (h : Renders r response answer)
      (rest : Serves rs responses answers) :
      Serves (r :: rs) (response :: responses) (answer :: answers)
  | other {r : Request} {response : Response} {rs : List Request} {responses : List Response}
      {answers : List (Except Rejection Reply)} (hc : r.command? = none)
      (rest : Serves rs responses answers) :
      Serves (r :: rs) (response :: responses) answers

def Response.ofAnswer : Except Rejection Reply → Response
  | .ok reply => .ofReply reply
  | .error rejection => .ofRejection rejection

theorem Response.worded_fault_ofReply (reply : Reply) :
    Option.Rel Fault.Worded reply.fault? ((Response.ofReply reply).header? faultHeader) := by
  obtain ⟨dump, phase, fault?⟩ := reply
  cases fault? with
  | none => exact .none
  | some fault =>
    -- The description is never left out.
    have hv := isHeaderValue_message fault
    have hh : (Response.ofReply ⟨dump, phase, some fault⟩).header? faultHeader =
        some fault.message := by
      show List.lookup faultHeader (("content-type", "text/plain") :: (phaseHeader, phase.name) ::
        (haltHeader, "fault") ::
        if isHeaderValue fault.message then [(faultHeader, fault.message)] else []) = _
      rw [if_pos hv]
      rfl
    rw [hh]
    exact .some fault.worded_message

namespace Site

theorem action_of_command (site : Site) {r : Request} {c : Command} (h : r.command? = some c) :
    site.action r = .run c ∧ r.route ≠ .page := by
  rw [Request.command?_eq] at h
  split at h
  · rename_i hm
    have ho : ¬ (site.cors = true ∧ r.method = "OPTIONS") := by
      intro ho
      rw [ho.2] at hm
      exact r.route.options_not_mem_methods hm
    rw [action, if_neg ho, if_neg (not_not.2 hm)]
    revert h
    cases r.route with
    | landing | page =>
      intro h
      cases h
    | loadBinary | loadHex =>
      intro h
      obtain ⟨hl, hc⟩ := Option.ite_none_right_eq_some.1 h
      cases hc
      exact ⟨if_neg (Nat.not_lt.2 hl), by decide⟩
    | execute | dump =>
      intro h
      cases h
      exact ⟨rfl, by decide⟩
  · cases h

theorem action_of_no_command (site : Site) {r : Request} (h : r.command? = none) :
    ∃ response, site.action r = .reply response := by
  unfold action
  split
  · exact ⟨_, rfl⟩
  split
  · exact ⟨_, rfl⟩
  rename_i hm
  rw [not_not] at hm
  rw [Request.command?_eq, if_pos hm] at h
  revert h
  cases r.route with
  | landing | page =>
    intro h
    exact ⟨_, rfl⟩
  | loadBinary | loadHex =>
    intro h
    have hl : ¬ r.body.length ≤ uploadLimit := by
      intro hl
      cases (if_pos hl).symm.trans h
    exact ⟨_, if_pos (Nat.not_le.1 hl)⟩
  | execute | dump =>
    intro h
    cases h

theorem respond_of_command (site : Site) {r : Request} {c : Command} (h : r.command? = some c) :
    site.respond r = (site.monitor.answer c).map fun (answer, monitor) =>
      (site.finish r (.ofAnswer answer), { site with monitor }) := by
  simp only [respond, (site.action_of_command h).1]
  congr 1
  funext ⟨answer, monitor⟩
  cases answer <;> rfl

theorem respond_of_no_command (site : Site) {r : Request} (h : r.command? = none) :
    ∃ response, site.respond r = some (response, site) := by
  obtain ⟨response, ha⟩ := site.action_of_no_command h
  exact ⟨site.finish r response, by simp only [respond, ha]⟩

/-- Fitting a response to its request keeps the headers that do not concern other origins. -/
theorem header?_finish (site : Site) (r : Request) (response : Response) {name : String}
    (hn : name ≠ "access-control-allow-origin") :
    (site.finish r response).header? name = response.header? name := by
  have hl : List.lookup name [("access-control-allow-origin", "*")] = none := by
    rw [List.lookup_cons, beq_false_of_ne hn]
    rfl
  unfold finish Response.header?
  rw [List.lookup_append]
  cases site.cors with
  | false => exact Option.or_none
  | true =>
    rw [if_pos rfl, hl]
    exact Option.or_none

theorem body_finish (site : Site) {r : Request} (hr : r.route ≠ .page) (response : Response) :
    (site.finish r response).body = if r.method = "HEAD" then [] else response.body := by
  simp only [finish, and_iff_left hr]

theorem renders_finish (site : Site) {r : Request} (hr : r.route ≠ .page)
    (answer : Except Rejection Reply) :
    Renders r (site.finish r (.ofAnswer answer)) answer := by
  have hc : "content-type" ≠ "access-control-allow-origin" := by decide
  have hp : "x-hexvm-phase" ≠ "access-control-allow-origin" := by decide
  have hh : "x-hexvm-halt" ≠ "access-control-allow-origin" := by decide
  have hf : "x-hexvm-fault" ≠ "access-control-allow-origin" := by decide
  cases answer with
  | ok reply =>
    refine ⟨rfl, site.body_finish hr _, ?_, ?_, ?_, ?_⟩
    · rw [header?_finish _ _ _ hc]
      rfl
    · refine ⟨reply.phase.name, reply.phase.named_name, ?_⟩
      rw [header?_finish _ _ _ hp]
      rfl
    · rw [header?_finish _ _ _ hh]
      obtain ⟨dump, phase, fault?⟩ := reply
      cases fault? <;> rfl
    · rw [header?_finish _ _ _ hf]
      exact Response.worded_fault_ofReply reply
  | error rejection =>
    refine ⟨?_, ?_, ?_, ?_, ?_, ?_⟩
    · cases rejection <;> rfl
    · exact ⟨rejection.message, rejection.worded_message, site.body_finish hr _⟩
    · rw [header?_finish _ _ _ hc]
      rfl
    · rw [header?_finish _ _ _ hp]
      rfl
    · rw [header?_finish _ _ _ hh]
      rfl
    · rw [header?_finish _ _ _ hf]
      rfl

theorem respondAll_cons {site site' : Site} {r : Request} {response : Response}
    (h : site.respond r = some (response, site')) (rs : List Request) :
    site.respondAll (r :: rs) =
      (site'.respondAll rs).map fun (responses, site'') => (response :: responses, site'') := by
  simp only [respondAll, h, Option.bind_eq_bind, Option.bind_some]
  cases site'.respondAll rs <;> rfl

/-- A run of requests follows the run of their commands. -/
theorem exists_respondAll {requests : List Request} {site : Site} {monitor : Monitor}
    {answers : List (Except Rejection Reply)}
    (h : site.monitor.answerAll (requests.filterMap Request.command?) = some (answers, monitor)) :
    ∃ responses, site.respondAll requests = some (responses, { site with monitor }) ∧
      Serves requests responses answers := by
  induction requests generalizing site answers with
  | nil =>
    cases h
    exact ⟨[], rfl, .nil⟩
  | cons r rs ih =>
    cases hc : r.command? with
    | none =>
      rw [List.filterMap_cons_none hc] at h
      obtain ⟨response, hr⟩ := site.respond_of_no_command hc
      obtain ⟨responses, hrs, hs⟩ := ih h
      refine ⟨response :: responses, ?_, .other hc hs⟩
      rw [respondAll_cons hr, hrs]
      rfl
    | some c =>
      -- Site and monitor take one step together.
      rw [List.filterMap_cons_some hc] at h
      obtain ⟨answer, monitor', answers', ha, h', rfl⟩ := Monitor.answerAll_cons h
      have hr : site.respond r =
          some (site.finish r (.ofAnswer answer), { site with monitor := monitor' }) := by
        rw [site.respond_of_command hc, ha]
        rfl
      have hf := site.renders_finish (site.action_of_command hc).2 answer
      obtain ⟨responses, hrs, hs⟩ := @ih { site with monitor := monitor' } answers' h'
      refine ⟨site.finish r (.ofAnswer answer) :: responses, ?_, .command hc hf hs⟩
      rw [respondAll_cons hr, hrs]
      rfl

/-- A command that never comes back keeps its request, and all later ones, from being answered. -/
theorem respondAll_eq_none {requests : List Request} {site : Site}
    (h : site.monitor.answerAll (requests.filterMap Request.command?) = none) :
    site.respondAll requests = none := by
  induction requests generalizing site with
  | nil => cases h
  | cons r rs ih =>
    cases hc : r.command? with
    | none =>
      rw [List.filterMap_cons_none hc] at h
      obtain ⟨response, hr⟩ := site.respond_of_no_command hc
      rw [respondAll_cons hr, ih h]
      rfl
    | some c =>
      rw [List.filterMap_cons_some hc] at h
      have hr := site.respond_of_command hc
      cases ha : site.monitor.answer c with
      | none =>
        rw [ha] at hr
        rw [respondAll, hr]
        rfl
      | some p =>
        obtain ⟨answer, monitor⟩ := p
        have h' : monitor.answerAll (rs.filterMap Request.command?) = none := by
          rw [Monitor.answerAll, ha] at h
          cases hm : monitor.answerAll (rs.filterMap Request.command?) with
          | none => rfl
          | some q => simp [hm] at h
        rw [ha] at hr
        rw [respondAll_cons hr, @ih { site with monitor } h']
        rfl

/-- A site of any settings is its monitor: it carries out the commands that its requests stand for,
in their order, answers each of these by the command's answer, and is not changed by the others. -/
theorem respondAll_refines (settings : Settings) (assets : Assets) (requests : List Request) :
    let site := ofSettings settings assets
    let monitor : Monitor :=
      { mode := settings.loadMode, dumpCapacity := settings.dumpCapacity.toNat }
    let commands := requests.filterMap Request.command?
    (∀ answers monitor', monitor.answerAll commands = some (answers, monitor') →
      ∃ responses, site.respondAll requests = some (responses, { site with monitor := monitor' }) ∧
        Serves requests responses answers) ∧
    (monitor.answerAll commands = none → site.respondAll requests = none) ∧
    ∀ (site : Site) (r : Request), r.command? = none →
      ∃ response, site.respond r = some (response, site) := by
  intro site monitor commands
  refine ⟨?_, ?_, ?_⟩
  · intro answers monitor' h
    exact exists_respondAll h
  · intro h
    exact respondAll_eq_none h
  · intro site r hc
    exact site.respond_of_no_command hc

/-- A program that faults, a question about methods, a second run, a way to the landing page, and a
text that is turned down, on a site that other origins may read: three of these are commands. -/
theorem respondAll_refines_mixed :
    let requests : List Request :=
      [{ method := "POST", target := { path := "/load/bin", query? := some "x" }, body := [0x05] },
        { method := "OPTIONS", target := { path := "/exec" } },
        { method := "HEAD", target := { path := "/exec" } },
        { method := "GET", target := { path := "/" } },
        { method := "POST", target := { path := "/load/hex" }, body := [0x30] }]
    let site := ofSettings { cors := true } {}
    let shown (response : Response) : List (Option String) :=
      ["x-hexvm-phase", "x-hexvm-halt", "x-hexvm-fault"].map response.header?
    ∃ answers monitor responses,
      requests.filterMap Request.command? = [.loadBinary [0x05], .execute, .loadHex [0x30]] ∧
      Monitor.answerAll { mode := .fused, dumpCapacity := 2000 }
        [.loadBinary [0x05], .execute, .loadHex [0x30]] = some (answers, monitor) ∧
      site.respondAll requests = some (responses, { site with monitor }) ∧
      Serves requests responses answers ∧
      responses.map shown =
        [[some "executed", some "fault", some "Invalid opcode 0x05 at 0x0000"], [none, none, none],
          [some "executed", some "fault", some "Invalid opcode 0x05 at 0x0000"],
          [none, none, none], [none, none, none]] ∧
      responses.map (·.body.length) = [542, 0, 0, 0, 42] ∧
      responses.getLast?.map (·.body.toCharacters) =
        some "Invalid hex encoding: Odd number of digits" := by
  intro requests site shown
  have hc : requests.filterMap Request.command? =
      [.loadBinary [0x05], .execute, .loadHex [0x30]] := by decide +kernel
  have hs : (Monitor.answerAll { mode := .fused, dumpCapacity := 2000 }
      [.loadBinary [0x05], .execute, .loadHex [0x30]]).isSome := by decide +kernel
  have hh : (site.respondAll requests).map (·.1.map shown) =
      some [[some "executed", some "fault", some "Invalid opcode 0x05 at 0x0000"],
        [none, none, none], [some "executed", some "fault", some "Invalid opcode 0x05 at 0x0000"],
        [none, none, none], [none, none, none]] := by decide +kernel
  have hl : (site.respondAll requests).map (·.1.map (·.body.length)) =
      some [542, 0, 0, 0, 42] := by decide +kernel
  have hb : (site.respondAll requests).map (·.1.getLast?.map (·.body.toCharacters)) =
      some (some "Invalid hex encoding: Odd number of digits") := by decide +kernel
  obtain ⟨⟨answers, monitor⟩, ha⟩ := Option.isSome_iff_exists.1 hs
  have h := (respondAll_refines { cors := true } {} requests).1 answers monitor
  rw [hc] at h
  obtain ⟨responses, hr, hserves⟩ := h ha
  rw [hr] at hh hl hb
  exact ⟨answers, monitor, responses, hc, ha, hr, hserves, Option.some.inj hh,
    Option.some.inj hl, Option.some.inj hb⟩

end Site

end HexMonitor.Http
