import Courier.Endpoint.Basic
import Courier.Proofs.Decimal.Durations
import Courier.Proofs.Text.Quoting

/-!
# Endpoints as they are shown

Results:

* `laid_eq_iff`: laid out with one kind of text between its parts, an endpoint tells all about
  itself but its token, and of that only whether there is one.
* `line_eq_laid`, `block_eq_laid`: on a line and as a block it is laid out so.
* `shown_eq_iff_alike`: so two endpoints are shown alike exactly when they differ in nothing but
  the token, in either layout; and the line is one line, whatever the texts of the endpoint hold.
-/

namespace Courier.Endpoint

open Courier.Text

variable {a b e : Endpoint} {c : Char}

/-- Two endpoints that differ in nothing but the text of a token. -/
structure Alike (a b : Endpoint) : Prop where
  baseUrl : a.baseUrl = b.baseUrl
  path : a.path = b.path
  timeouts : a.timeouts = b.timeouts
  /-- Both have a token, or neither. -/
  bearer : a.bearer.isSome = b.bearer.isSome

/-! ## A layout -/

/-- The texts between the parts of an endpoint, and the text for a token. -/
structure Layout where
  front : List Char
  behindUrl : List Char
  behindPath : List Char
  token : List Char
  behindToken : List Char
  behindConnect : List Char
  back : List Char

/-- The text of a token, or of none. -/
def Layout.bearer (l : Layout) (present : Bool) : List Char :=
  if present then l.token else "None".toList

/-- An endpoint laid out. -/
def laid (l : Layout) (e : Endpoint) : List Char :=
  l.front ++ (Quoted.quote e.baseUrl.toList ++ (l.behindUrl ++ (Quoted.quote e.path.toList ++
    (l.behindPath ++ (l.bearer e.bearer.isSome ++ (l.behindToken ++ (e.timeouts.connect.text ++
      (l.behindConnect ++ (e.timeouts.total.text ++ l.back)))))))))

/-- A layout in which the parts can be told apart. -/
structure Layout.Separates (l : Layout) : Prop where
  token : l.token.head? = some 'S'
  behindConnect : ∃ c ∈ l.behindConnect.head?, Duration.isTime c = false
  back : ∃ c ∈ l.back.head?, Duration.isTime c = false

/-- A token begins otherwise than the word for none. -/
theorem Layout.Separates.bearer_append_inj {l : Layout} (h : l.Separates) {present other : Bool}
    {rest left : List Char} (he : l.bearer present ++ rest = l.bearer other ++ left) :
    present = other ∧ rest = left := by
  obtain ⟨more, hmore⟩ := List.head?_eq_some_iff.mp h.token
  cases present <;> cases other <;> simp_all [Layout.bearer]

/-- A duration ends where a text stands that begins with nothing of it. -/
theorem stop_of_head {front : List Char} (h : ∃ c ∈ front.head?, Duration.isTime c = false)
    (rest : List Char) : ∀ c ∈ (front ++ rest).head?, Duration.isTime c = false := by
  obtain ⟨c, hc, htime⟩ := h
  obtain ⟨more, rfl⟩ := List.head?_eq_some_iff.mp hc
  rintro d ⟨⟩
  exact htime

theorem laid_eq_iff {l : Layout} (h : l.Separates) : laid l a = laid l b ↔ Alike a b := by
  constructor
  · intro he
    have hconnect' := stop_of_head h.behindConnect
    have hback := stop_of_head h.back []
    rw [List.append_nil] at hback
    unfold laid at he
    obtain ⟨hurl, he⟩ := Quoted.quote_append_inj (List.append_cancel_left he)
    obtain ⟨hpath, he⟩ := Quoted.quote_append_inj (List.append_cancel_left he)
    obtain ⟨hbearer, he⟩ := h.bearer_append_inj (List.append_cancel_left he)
    obtain ⟨hconnect, he⟩ :=
      Duration.text_append_inj (hconnect' _) (hconnect' _) (List.append_cancel_left he)
    obtain ⟨htotal, -⟩ := Duration.text_append_inj hback hback (List.append_cancel_left he)
    refine ⟨String.toList_inj.mp hurl, String.toList_inj.mp hpath, ?_, hbearer⟩
    calc
      a.timeouts = ⟨a.timeouts.connect, a.timeouts.total⟩ := rfl
      _ = b.timeouts := by rw [hconnect, htotal]
  · rintro ⟨hurl, hpath, htimeouts, hbearer⟩
    simp only [laid, hurl, hpath, htimeouts, hbearer]

/-- Whatever stands in a layout by itself. -/
def Layout.marks (l : Layout) : List Char :=
  l.front ++ l.behindUrl ++ l.behindPath ++ l.token ++ "None".toList ++ l.behindToken ++
    l.behindConnect ++ l.back

theorem Layout.mem_marks_of_mem_bearer {l : Layout} {present : Bool} (h : c ∈ l.bearer present) :
    c ∈ l.marks := by
  have hnone (hc : c ∈ "None".toList) : c ∈ l.marks := by
    simp only [Layout.marks, List.mem_append, hc, or_true, true_or]
  cases present with
  | false => exact hnone h
  | true => simp_all [Layout.bearer, Layout.marks]

/-- An endpoint laid out has no control in it but those of the layout. -/
theorem mem_marks_of_isControl {l : Layout} (h : c ∈ laid l e) (hc : IsControl c) :
    c ∈ l.marks := by
  have hquoted {text : List Char} (hm : c ∈ Quoted.quote text) : c ∈ l.marks :=
    absurd hc (Quoted.not_isControl_of_mem_quote hm)
  have htime {d : Duration} (hm : c ∈ d.text) : c ∈ l.marks :=
    absurd hc (Duration.not_isControl_of_mem_text hm)
  simp only [laid, List.mem_append] at h
  rcases h with h | h | h | h | h | h | h | h | h | h | h
  · simp [Layout.marks, h]
  · exact hquoted h
  · simp [Layout.marks, h]
  · exact hquoted h
  · simp [Layout.marks, h]
  · exact Layout.mem_marks_of_mem_bearer h
  · simp [Layout.marks, h]
  · exact htime h
  · simp [Layout.marks, h]
  · exact htime h
  · simp [Layout.marks, h]

/-! ## On a line and as a block -/

/-- The layout on a line. -/
def onLine : Layout where
  front := "EndpointConfig \x7b base_url: ".toList
  behindUrl := ", path: ".toList
  behindPath := ", auth_token: ".toList
  token := "Some(".toList ++ Quoted.quote "<redacted>".toList ++ ")".toList
  behindToken := ", timeouts: Timeouts \x7b connect: ".toList
  behindConnect := ", global: ".toList
  back := " \x7d \x7d".toList

/-- The layout as a block. -/
def asBlock : Layout where
  front := "EndpointConfig \x7b\n    base_url: ".toList
  behindUrl := ",\n    path: ".toList
  behindPath := ",\n    auth_token: ".toList
  token := "Some(\n        ".toList ++ Quoted.quote "<redacted>".toList ++ ",\n    )".toList
  behindToken := ",\n    timeouts: Timeouts \x7b\n        connect: ".toList
  behindConnect := ",\n        global: ".toList
  back := ",\n    \x7d,\n\x7d".toList

theorem separates_onLine : onLine.Separates :=
  ⟨rfl, ⟨',', rfl, rfl⟩, ⟨' ', rfl, rfl⟩⟩

theorem separates_asBlock : asBlock.Separates :=
  ⟨rfl, ⟨',', rfl, rfl⟩, ⟨',', rfl, rfl⟩⟩

theorem line_eq_laid (e : Endpoint) : e.line = laid onLine e := by
  unfold line shown laid onLine Layout.bearer
  cases e.bearer <;> simp

theorem block_eq_laid (e : Endpoint) : e.block = laid asBlock e := by
  unfold block shown laid asBlock Layout.bearer
  cases e.bearer <;> simp [Shown.newline, List.replicate]

/-- Nothing in the layout on a line is a control. -/
theorem not_isControl_of_mem_onLine (h : c ∈ onLine.marks) : ¬IsControl c := by
  have hascii : onLine.marks.all isAscii = true := by decide +kernel
  exact not_isControl_of_isAscii (List.all_eq_true.mp hascii c h)

/-- Two endpoints are shown alike, on a line or as a block, exactly when they differ in nothing but
the text of a token; and on a line nothing is shown that moves on to another line or steers what
shows it. -/
theorem shown_eq_iff_alike (a b : Endpoint) :
    (a.line = b.line ↔ Alike a b) ∧ (a.block = b.block ↔ Alike a b) ∧
      ∀ c ∈ a.line, ¬IsControl c := by
  refine ⟨?_, ?_, fun c hc hcontrol => ?_⟩
  · rw [line_eq_laid, line_eq_laid, laid_eq_iff separates_onLine]
  · rw [block_eq_laid, block_eq_laid, laid_eq_iff separates_asBlock]
  · rw [line_eq_laid] at hc
    exact not_isControl_of_mem_onLine (mem_marks_of_isControl hc hcontrol) hcontrol

end Courier.Endpoint
