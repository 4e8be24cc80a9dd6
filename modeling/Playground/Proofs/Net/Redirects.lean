import Mathlib.Data.List.Chain
import Playground.Net.Exchange

/-! What a client that follows redirects puts on the wire for one request. First goes the request as
it is, and then only what an answer asked for, and no more than the limit. -/
namespace Playground.Net

structure Exchange where
  request : Request
  reply : Except Breakdown Answer

def noted (carrier : Carrier W) : Carrier (W × List Exchange) := fun request seen =>
  let (reply,world) := (carrier request).run seen.1
  (reply,(world,seen.2 ++ [⟨request,reply⟩]))

/- What an exchange asks a client for. Only on 307 and 308 it is the same request again. -/
inductive Exchange.Redirects (exchange : Exchange) : Request → Prop where
  | again {answer url} (replied : exchange.reply = .ok answer) (located : answer.location = some url)
      (status : answer.status = 307 ∨ answer.status = 308) : exchange.Redirects { exchange.request with url }
  | bare {answer url} (replied : exchange.reply = .ok answer) (located : answer.location = some url)
      (status : answer.status = 301 ∨ answer.status = 302 ∨ answer.status = 303) :
      exchange.Redirects { method := .get, url, body := "" }

theorem redirectedIff {request asked : Request} {reply : Except Breakdown Answer} :
    request.redirected? reply = some asked ↔ Exchange.Redirects ⟨request,reply⟩ asked := by
  constructor
  · intro redirected
    obtain ⟨answer,replied,redirect⟩ := Option.bind_eq_some_iff.mp redirected
    obtain ⟨url,located,kind⟩ := Option.bind_eq_some_iff.mp redirect
    have replied : reply = .ok answer := by
      cases reply <;> cases replied
      rfl
    split at kind
    · rename_i status
      cases kind
      exact .bare replied located (by simpa using status)
    · split at kind
      · rename_i status
        cases kind
        exact .again replied located (by simpa using status)
      · contradiction
  · intro redirects
    cases redirects with
    | again replied located status =>
      cases replied
      rcases status with status | status <;> simp [Request.redirected?,Except.toOption,Answer.redirect?,located,status]
    | bare replied located status =>
      cases replied
      rcases status with status | status | status <;>
        simp [Request.redirected?,Except.toOption,Answer.redirect?,located,status]

theorem redirectsOnce {exchange : Exchange} {asked other : Request} (redirects : exchange.Redirects asked)
    (also : exchange.Redirects other) : asked = other :=
  Option.some.inj ((redirectedIff.mpr redirects).symm.trans (redirectedIff.mpr also))

theorem redirectsResend {exchange : Exchange} {asked : Request} (redirects : exchange.Redirects asked) :
    asked.method = exchange.request.method ∧ asked.body = exchange.request.body ∨
      asked.method = .get ∧ asked.body = "" := by
  cases redirects with
  | again => exact .inl ⟨rfl,rfl⟩
  | bare => exact .inr ⟨rfl,rfl⟩

/- The exchanges that one request leads to where so many redirects are left. They end with one that asks for
nothing, or for what a client does not send. -/
inductive Course : Nat → Request → List Exchange → Prop where
  | last {left : Nat} {request : Request} {reply : Except Breakdown Answer}
      (ends : ∀ asked, Exchange.Redirects ⟨request,reply⟩ asked → left = 0 ∨ isWebScheme asked.url.scheme = false) :
      Course left request [⟨request,reply⟩]
  | next {left : Nat} {request asked : Request} {reply : Except Breakdown Answer} {rest : List Exchange}
      (redirects : Exchange.Redirects ⟨request,reply⟩ asked) (web : isWebScheme asked.url.scheme = true)
      (course : Course left asked rest) : Course (left + 1) request (⟨request,reply⟩ :: rest)

theorem notedRun {carrier : Carrier W} {request : Request} {world after : W} {reply : Except Breakdown Answer}
    (carried : (carrier request).run world = (reply,after)) (before : List Exchange) :
    (noted carrier request).run (world,before) = (reply,(after,before ++ [⟨request,reply⟩])) := by
  show noted carrier request (world,before) = _
  unfold noted
  rw [carried]

section
variable {carrier : Carrier W} {request asked : Request} {world after : W} {reply : Except Breakdown Answer}
  (carried : (carrier request).run world = (reply,after))
include carried

theorem carriedThen (next : Except Breakdown Answer → StateM W α) :
    (carrier request >>= next).run world = (next reply).run after := by
  rw [StateT.run_bind,carried]
  rfl

theorem followedHere (here : request.redirected? reply = none) (left : Nat) :
    (followed carrier left request).run world = (reply,after) := by
  cases left with
  | zero =>
    rw [followed,carriedThen carried,here]
    rfl
  | succ left =>
    rw [followed,carriedThen carried,here]
    rfl

theorem followedOut (redirected : request.redirected? reply = some asked) :
    (followed carrier 0 request).run world = (.error (.tooManyRedirects request.url),after) := by
  rw [followed,carriedThen carried,redirected]
  rfl

theorem followedOn (redirected : request.redirected? reply = some asked) (left : Nat) :
    (followed carrier (left + 1) request).run world = (send (followed carrier left) asked).run after := by
  rw [followed,carriedThen carried,redirected]

end

theorem sendWeb {request : Request} (web : isWebScheme request.url.scheme = true) (carrier : Carrier W) :
    send carrier request = carrier request := if_pos web

theorem sendOther {request : Request} (other : isWebScheme request.url.scheme ≠ true) (carrier : Carrier W) :
    send carrier request = pure (.error (.unsupportedScheme request.url)) := if_neg other

theorem followedNoted (carrier : Carrier W) (left : Nat) (request : Request) (world : W) (before : List Exchange) :
    ∃ trail, Course left request trail ∧
      (followed (noted carrier) left request).run (world,before) =
        let sent := (followed carrier left request).run world
        (sent.1,(sent.2,before ++ trail)) := by
  induction left generalizing request world before with
  | zero =>
    generalize carried : (carrier request).run world = sent
    obtain ⟨reply,after⟩ := sent
    refine ⟨[⟨request,reply⟩],.last fun asked _ => .inl rfl,?_⟩
    cases redirected : request.redirected? reply with
    | none => rw [followedHere (notedRun carried before) redirected,followedHere carried redirected]
    | some asked => rw [followedOut (notedRun carried before) redirected,followedOut carried redirected]
  | succ left ih =>
    generalize carried : (carrier request).run world = sent
    obtain ⟨reply,after⟩ := sent
    cases redirected : request.redirected? reply with
    | none =>
      refine ⟨[⟨request,reply⟩],.last fun asked redirects => ?_,?_⟩
      · rw [redirectedIff.mpr redirects] at redirected
        contradiction
      · rw [followedHere (notedRun carried before) redirected,followedHere carried redirected]
    | some asked =>
      have redirects := redirectedIff.mp redirected
      rw [followedOn (notedRun carried before) redirected,followedOn carried redirected]
      by_cases web : isWebScheme asked.url.scheme = true
      · obtain ⟨rest,course,run⟩ := ih asked after (before ++ [⟨request,reply⟩])
        refine ⟨_,.next redirects web course,?_⟩
        rw [sendWeb web,sendWeb web,run,List.append_assoc]
        rfl
      · refine ⟨[⟨request,reply⟩],.last fun other also => .inr ?_,?_⟩
        · rw [← redirectsOnce redirects also]
          exact Bool.eq_false_iff.mpr web
        · rw [sendOther web,sendOther web]
          rfl

/- All that goes over the wire for a request: first the request, and then whatever the exchange before asks
for, ten times at most and to web addresses only. -/
structure Trail (request : Request) (trail : List Exchange) : Prop where
  first : (trail.map Exchange.request).head? = some request
  asked : trail.IsChain fun earlier later =>
    earlier.Redirects later.request ∧ isWebScheme later.request.url.scheme = true
  bounded : trail.length ≤ 11
  ends : ∀ last asked, trail.getLast? = some last → last.Redirects asked →
    trail.length = 11 ∨ isWebScheme asked.url.scheme = false
  resent : ∀ exchange ∈ trail, exchange.request.method = request.method ∧ exchange.request.body = request.body ∨
    exchange.request.method = .get ∧ exchange.request.body = ""

theorem courseFirst {left : Nat} {request : Request} {trail : List Exchange} (course : Course left request trail) :
    (trail.map Exchange.request).head? = some request := by
  cases course <;> rfl

theorem courseAsked {left : Nat} {request : Request} {trail : List Exchange} (course : Course left request trail) :
    trail.IsChain fun earlier later =>
      earlier.Redirects later.request ∧ isWebScheme later.request.url.scheme = true := by
  induction course with
  | last ends => exact .singleton _
  | @next left request asked reply rest redirects web course ih =>
    refine List.isChain_cons.mpr ⟨fun later there => ?_,ih⟩
    have first := courseFirst course
    rw [List.head?_map,there] at first
    cases first
    exact ⟨redirects,web⟩

theorem courseBounded {left : Nat} {request : Request} {trail : List Exchange} (course : Course left request trail) :
    trail.length ≤ left + 1 := by
  induction course with
  | last ends => simp
  | next redirects web course ih => simpa using ih

theorem courseEnds {left : Nat} {request : Request} {trail : List Exchange} (course : Course left request trail) :
    ∀ last asked, trail.getLast? = some last → last.Redirects asked →
      trail.length = left + 1 ∨ isWebScheme asked.url.scheme = false := by
  induction course with
  | last ends =>
    intro last asked there redirects
    cases there
    exact (ends asked redirects).imp_left fun none => by rw [none]; rfl
  | @next left request asked reply rest redirected web course ih =>
    intro last asked there redirects
    have filled : rest ≠ [] := by
      rintro rfl
      cases course
    rw [List.getLast?_cons_of_ne_nil filled] at there
    exact (ih last asked there redirects).imp_left fun length => by rw [List.length_cons,length]

theorem courseResent {left : Nat} {request : Request} {trail : List Exchange} (course : Course left request trail) :
    ∀ exchange ∈ trail, exchange.request.method = request.method ∧ exchange.request.body = request.body ∨
      exchange.request.method = .get ∧ exchange.request.body = "" := by
  induction course with
  | last ends => simp
  | next redirects web course ih =>
    intro exchange member
    rcases List.mem_cons.mp member with rfl | later
    · exact .inl ⟨rfl,rfl⟩
    · rcases ih exchange later with ⟨method,body⟩ | bare
      · rcases redirectsResend redirects with ⟨method',body'⟩ | ⟨method',body'⟩
        · exact .inl ⟨method.trans method',body.trans body'⟩
        · exact .inr ⟨method.trans method',body.trans body'⟩
      · exact .inr bare

theorem followingNoted (carrier : Carrier W) (request : Request) (world : W) (before : List Exchange) :
    ∃ trail, Trail request trail ∧
      (following (noted carrier) request).run (world,before) =
        let sent := (following carrier request).run world
        (sent.1,(sent.2,before ++ trail)) := by
  obtain ⟨trail,course,run⟩ := followedNoted carrier redirectLimit request world before
  refine ⟨trail,?_,run⟩
  exact ⟨courseFirst course,courseAsked course,courseBounded course,courseEnds course,courseResent course⟩

end Playground.Net
