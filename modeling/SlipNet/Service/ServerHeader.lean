import SlipNet.Service.ServiceDetector
import SlipNet.Standard.Searching
import SlipNet.Standard.Words

/-!
# The server header

The version of an HTTP service is the text behind the first `Server:` anywhere
in the response, up to the end of its line.  That is the server header if the
field name is spelled so and nothing before it mentions the text.
-/

namespace SlipNet.Services

open SlipNet.Standard

structure HeaderField where
  name : Str
  value : Str
  ne_nil : name ≠ []
  token : ∀ c ∈ name, c ≠ ':' ∧ isspace c = false
  line : ∀ c ∈ value, c ≠ '\n' ∧ c ≠ '\r'

def HeaderField.text (field : HeaderField) : Str :=
  field.name ++ ':' :: field.value

def HeaderField.IsServer (field : HeaderField) : Prop :=
  lower field.name = "server".toList

instance : DecidablePred HeaderField.IsServer := fun _ =>
  inferInstanceAs (Decidable (_ = _))

structure HttpResponse where
  statusLine : Str
  fields : List HeaderField
  body : Str
  status : startsWith statusLine "HTTP/".toList = true
  line : ∀ c ∈ statusLine, c ≠ '\n' ∧ c ≠ '\r'

namespace HttpResponse

/-- The lines in front of the body, the empty one included. -/
def headLines (response : HttpResponse) : List Str :=
  response.statusLine :: response.fields.map HeaderField.text ++ [[]]

def text (response : HttpResponse) : Str :=
  (response.headLines.map (· ++ "\r\n".toList)).flatten ++ response.body

def serverFields (response : HttpResponse) : List HeaderField :=
  response.fields.filter HeaderField.IsServer

/-- The version is that of the server header, if there is one of them; it is
empty if there is none, and comes from one of them if there are several. -/
structure ServerVersion (response : HttpResponse) (version : Str) : Prop where
  one : ∀ field, response.serverFields = [field] → version = trim field.value
  other : version = [] ∨ ∃ field ∈ response.serverFields,
    version = trim field.value

def lines (response : HttpResponse) : List Str :=
  response.headLines ++ getlines '\n' response.body

/-- The first `Server:`, so spelled, stands before this text on its line. -/
def Mentions (response : HttpResponse) (rest : Str) : Prop :=
  ∃ before line after start, response.lines = before ++ line :: after ∧
    (∀ earlier ∈ before, find "Server:".toList earlier = none) ∧
    find "Server:".toList line = some start.length ∧
    line = start ++ "Server:".toList ++ rest

end HttpResponse

/-- The responses whose server header the extractor finds: the first mention
of `Server:` is the field itself; nothing is mentioned, or nothing but white
space behind it, and a single server header is as empty; or the line of the
first mention goes on with the value of a server header, white space apart. -/
inductive LeadsToServer (response : HttpResponse) : Prop
  | own (before after : List HeaderField) (field : HeaderField) :
      response.fields = before ++ field :: after →
      field.name = "Server".toList →
      (∀ line ∈ response.statusLine :: before.map HeaderField.text,
        find "Server:".toList line = none) →
      LeadsToServer response
  | silent : (∀ rest, response.Mentions rest → IsBlank rest) →
      (∀ field, response.serverFields = [field] → IsBlank field.value) →
      LeadsToServer response
  | alike (rest core : Str) (field : HeaderField) : response.Mentions rest →
      field ∈ response.serverFields → Pads core rest →
      Pads core field.value → LeadsToServer response

/-! ## The extractor, line by line -/

theorem extractHeader_eq_behind (response header : Str) :
    extractHeader response header =
      (behind header response).elim [] fun rest =>
        trim (rest.takeWhile (· ≠ '\n')) := by
  unfold extractHeader behind
  cases find header response <;> rfl

theorem extractHeader_eq_findSome {header : Str} (h : '\n' ∉ header)
    (hne : header ≠ []) (response : Str) :
    extractHeader response header =
      ((getlines '\n' response).findSome? (behind header)).elim [] trim := by
  rw [extractHeader_eq_behind]
  generalize hlines : getlines '\n' response = lines
  induction lines generalizing response with
  | nil =>
      rw [getlines_eq_nil.mp hlines]
      cases header with
      | nil => exact absurd rfl hne
      | cons c header => rfl
  | cons line lines ih =>
      obtain ⟨hnot, ⟨rfl, rfl⟩ | ⟨rest, rfl, hrest⟩⟩ := of_getlines_cons hlines
      · cases hbehind : behind header response with
        | none => simp [hbehind]
        | some rest =>
            have hall := takeWhile_of_notMem
              (notMem_of_behind hnot hbehind)
            rw [List.findSome?_cons, hbehind]
            exact congrArg trim hall
      · rw [behind_append_cons h hne]
        cases hbehind : behind header line with
        | none => simpa [hbehind] using ih rest hrest
        | some tail =>
            have htail := takeWhile_append_cons
              (notMem_of_behind hnot hbehind) rest
            rw [List.findSome?_cons, hbehind]
            exact congrArg trim htail

namespace HttpResponse

variable {response : HttpResponse}

theorem getlines_crlf {lines : List Str} (h : ∀ line ∈ lines, '\n' ∉ line)
    (body : Str) :
    getlines '\n' ((lines.map (· ++ "\r\n".toList)).flatten ++ body) =
      lines.map (· ++ ['\r']) ++ getlines '\n' body := by
  induction lines with
  | nil => rfl
  | cons line lines ih =>
      obtain ⟨hline, hlines⟩ := List.forall_mem_cons.mp h
      have hnot : '\n' ∉ line ++ ['\r'] := by simp [hline]
      have hcons : ((line :: lines).map (· ++ "\r\n".toList)).flatten ++ body =
          (line ++ ['\r']) ++
            '\n' :: ((lines.map (· ++ "\r\n".toList)).flatten ++ body) := by
        simp
      rw [hcons, getlines_append_cons hnot, ih hlines, List.map_cons,
        List.cons_append]

theorem findSome?_cr {header : Str} (h : '\r' ∉ header) (hne : header ≠ [])
    (lines rest : List Str) :
    ((lines.map (· ++ ['\r']) ++ rest).findSome? (behind header)).elim []
        trim =
      ((lines ++ rest).findSome? (behind header)).elim [] trim := by
  induction lines with
  | nil => rfl
  | cons line lines ih =>
      have hempty : behind header [] = none := by
        cases header with
        | nil => exact absurd rfl hne
        | cons c header => rfl
      rw [List.map_cons, List.cons_append, List.cons_append,
        List.findSome?_cons, List.findSome?_cons,
        behind_append_cons h hne line [], hempty, Option.or_none]
      cases behind header line with
      | none => exact ih
      | some tail =>
          exact trim_append_space (by decide) tail

theorem notMem_headLines (response : HttpResponse) :
    ∀ line ∈ response.headLines, '\n' ∉ line := by
  intro line hline hmem
  simp only [headLines, List.mem_append, List.mem_cons, List.mem_map,
    List.not_mem_nil, or_false] at hline
  rcases hline with (rfl | ⟨field, _, rfl⟩) | rfl
  · exact (response.line _ hmem).1 rfl
  · rcases List.mem_append.mp hmem with hname | hvalue
    · exact absurd (field.token _ hname).2 (by decide)
    · rcases List.mem_cons.mp hvalue with hcolon | hvalue
      · exact absurd hcolon (by decide)
      · exact (field.line _ hvalue).1 rfl
  · simp at hmem

def mention (response : HttpResponse) : Option Str :=
  response.lines.findSome? (behind "Server:".toList)

/-- The extractor reads the first mention, wherever it is. -/
theorem extractHeader_text (response : HttpResponse) :
    extractHeader response.text "Server:".toList =
      response.mention.elim [] trim := by
  rw [extractHeader_eq_findSome (by decide) (by decide), text,
    getlines_crlf response.notMem_headLines,
    findSome?_cr (by decide) (by decide)]
  rfl

theorem mention_eq_some_iff {rest : Str} :
    response.mention = some rest ↔ response.Mentions rest := by
  rw [mention, List.findSome?_eq_some_iff]
  simp only [behind_eq_some_iff, behind_eq_none_iff]
  constructor
  · rintro ⟨before, line, after, hlines, ⟨start, hstart⟩, hbefore⟩
    exact ⟨before, line, after, start, hlines, hbefore, hstart⟩
  · rintro ⟨before, line, after, start, hlines, hbefore, hstart⟩
    exact ⟨before, line, after, hlines, ⟨start, hstart⟩, hbefore⟩

theorem mention_of_own {before after : List HeaderField} {field : HeaderField}
    (hfields : response.fields = before ++ field :: after)
    (hname : field.name = "Server".toList)
    (hfirst : ∀ line ∈ response.statusLine :: before.map HeaderField.text,
      find "Server:".toList line = none) :
    response.mention = some field.value := by
  have hsilent : (response.statusLine :: before.map HeaderField.text).findSome?
      (behind "Server:".toList) = none :=
    List.findSome?_eq_none_iff.mpr fun line hline =>
      behind_eq_none_iff.mpr (hfirst line hline)
  have hfield : behind "Server:".toList field.text = some field.value := by
    rw [HeaderField.text, hname]
    rfl
  have hlines : response.lines =
      (response.statusLine :: before.map HeaderField.text) ++
        field.text :: (after.map HeaderField.text ++ [[]] ++
          getlines '\n' response.body) := by
    simp [lines, headLines, hfields]
  rw [mention, hlines, List.findSome?_append, hsilent, Option.none_or,
    List.findSome?_cons, hfield]

theorem serverVersion_of_mem {field : HeaderField}
    (h : field ∈ response.serverFields) :
    response.ServerVersion (trim field.value) := by
  refine ⟨fun other hone => ?_, .inr ⟨field, h, rfl⟩⟩
  rw [hone, List.mem_singleton] at h
  rw [h]

theorem serverVersion_of_own {before after : List HeaderField}
    {field : HeaderField}
    (hfields : response.fields = before ++ field :: after)
    (hname : field.name = "Server".toList) :
    response.ServerVersion (trim field.value) :=
  serverVersion_of_mem (List.mem_filter.mpr ⟨by simp [hfields],
    decide_eq_true (show lower field.name = _ by rw [hname]; decide)⟩)

/-- A response begins like no SSH server, so its class is HTTP or FTP. -/
theorem takenAsHttp_of_name {port : Int}
    (h : (identify port response.text).name = "HTTP".toList) :
    takenAsHttp port response.text := by
  obtain ⟨rest, hrest⟩ := List.isPrefixOf_iff_prefix.mp response.status
  have htext : ∃ tail, response.text = "HTTP/".toList ++ tail := by
    rw [text, headLines, ← hrest]
    simp
  obtain ⟨tail, htail⟩ := htext
  have hssh : startsWith response.text "SSH-".toList = false := by
    rw [htail]
    rfl
  refine ⟨hssh, fun hftp => ?_, by rw [htail]; rfl⟩
  rw [identify, if_neg (by rw [hssh]; decide), if_pos hftp] at h
  exact absurd h (by
    change "FTP".toList ≠ "HTTP".toList
    decide)

end HttpResponse

/-- The version is the one of the server header exactly for the responses that
lead the extractor to it. -/
theorem serverVersion_iff {port : Int} {response : HttpResponse}
    (h : (identify port response.text).name = "HTTP".toList) :
    response.ServerVersion (identify port response.text).version ↔
      LeadsToServer response := by
  have hversion : (identify port response.text).version =
      response.mention.elim [] trim := by
    rw [identify_http (HttpResponse.takenAsHttp_of_name h)]
    exact response.extractHeader_text
  rw [hversion]
  constructor
  · intro hserver
    by_cases hempty : response.mention.elim [] trim = []
    · refine .silent (fun rest hrest => ?_) fun field hone => ?_
      · rw [HttpResponse.mention_eq_some_iff.mpr hrest] at hempty
        exact trim_eq_nil_iff.mp hempty
      · exact trim_eq_nil_iff.mp ((hserver.one field hone).symm.trans hempty)
    · obtain ⟨field, hfield, hvalue⟩ := hserver.other.resolve_left hempty
      cases hmention : response.mention with
      | none => rw [hmention] at hempty; exact absurd rfl hempty
      | some rest =>
          rw [hmention] at hvalue
          obtain ⟨core, hrest, hcore⟩ := trim_eq_trim_iff.mp hvalue
          exact .alike rest core field
            (HttpResponse.mention_eq_some_iff.mp hmention) hfield hrest hcore
  · rintro (⟨before, after, field, hfields, hname, hfirst⟩ |
      ⟨hblank, hone⟩ | ⟨rest, core, field, hmention, hfield, hrest, hcore⟩)
    · rw [HttpResponse.mention_of_own hfields hname hfirst]
      exact HttpResponse.serverVersion_of_own hfields hname
    · have hempty : response.mention.elim [] trim = [] := by
        cases hmention : response.mention with
        | none => rfl
        | some rest =>
            exact trim_eq_nil_iff.mpr
              (hblank rest (HttpResponse.mention_eq_some_iff.mp hmention))
      rw [hempty]
      exact ⟨fun field hfields =>
        (trim_eq_nil_iff.mpr (hone field hfields)).symm, .inl rfl⟩
    · rw [HttpResponse.mention_eq_some_iff.mpr hmention, Option.elim_some,
        trim_eq_trim_iff.mpr ⟨core, hrest, hcore⟩]
      exact HttpResponse.serverVersion_of_mem hfield

def nginxResponse (fields : List HeaderField) : HttpResponse where
  statusLine := "HTTP/1.1 200 OK".toList
  fields := fields
  body := []
  status := by decide
  line := forall_mem_of_all (by decide)

def serverField : HeaderField where
  name := "server".toList
  value := " nginx/1.18.0".toList
  ne_nil := by decide
  token := forall_mem_of_all (by decide)
  line := forall_mem_of_all (by decide)

def cacheField : HeaderField where
  name := "X-Server".toList
  value := " cache-7".toList
  ne_nil := by decide
  token := forall_mem_of_all (by decide)
  line := forall_mem_of_all (by decide)

theorem serverVersion_iff_nginx :
    (nginxResponse [serverField]).ServerVersion
        (identify 80 (nginxResponse [serverField]).text).version ↔
      LeadsToServer (nginxResponse [serverField]) :=
  @serverVersion_iff 80 (nginxResponse [serverField]) (by decide)

/-- The name of another field ends in `Server:`, and the server header itself
is written in small letters. -/
theorem not_serverVersion_cache :
    let response := nginxResponse [cacheField, serverField]
    (identify 80 response.text).name = "HTTP".toList ∧
      (identify 80 response.text).version = "cache-7".toList ∧
      ¬ response.ServerVersion (identify 80 response.text).version := by
  intro response
  refine ⟨by decide, by decide, fun h => ?_⟩
  have hfields : response.serverFields = [serverField] := rfl
  exact absurd (h.one serverField hfields) (by decide)

end SlipNet.Services
