import Mathlib.Data.List.TakeDrop
import ProfilingTargets.Http.Wire
import ProfilingTargets.Proofs.Text.Numeral
import ProfilingTargets.Proofs.Text.Split
import ProfilingTargets.Proofs.Text.Utf8

/-!
# What is read of a request

A request is a first line, header lines, an empty line and a body (`message`). Its head is
cut at the empty line (`head?_message`), and of the head only the first line says anything to
a handler: whatever the headers are, if they are headers, and whatever the body is, the same
is read (`read?_message`). A first line with a method and a target that can be read comes
apart into these (`read?_message_firstLine`), and so a server reads of a simple client's
request what the client put into it (`read?_compose`).
-/

namespace ProfilingTargets.Http.Wire

/-- The bytes of a request. -/
def message (first : Bytes) (headers : List Bytes) (body : Bytes) : Bytes :=
  first ++ crlf ++ (headers.flatMap (· ++ crlf) ++ crlf ++ body)

/-- The first line of a request. -/
def firstLine (method target : Bytes) : Bytes :=
  method ++ [space] ++ target ++ ascii " HTTP/1.1"

/-- What a line of a head may hold: something, and no end of a line. -/
structure IsLine (line : Bytes) : Prop where
  /-- The empty line is the end of the head. -/
  ne_nil : line ≠ []
  /-- A line feed would end it. -/
  lineFeed : (0x0A : UInt8) ∉ line
  /-- A carriage return at its end would be dropped. -/
  carriageReturn : line.getLast? ≠ some 0x0D

/-! ### Lines -/

theorem dropReturn_append (line : Bytes) : dropReturn (line ++ [0x0D]) = line := by
  simp [dropReturn]

/-- A line that is followed by others is cut off, without its end. -/
theorem lines_append {line : Bytes} (h : IsLine line) (rest : Bytes) :
    (Split.splitOn 0x0A (line ++ crlf ++ rest)).map dropReturn =
      line :: (Split.splitOn 0x0A rest).map dropReturn := by
  have hline : (0x0A : UInt8) ∉ line ++ [0x0D] := by
    rw [List.mem_append, not_or]
    exact ⟨h.lineFeed, by decide⟩
  have hcut : line ++ crlf ++ rest = line ++ [0x0D] ++ 0x0A :: rest := by simp [crlf]
  rw [hcut, Split.splitOn_append_cons hline, List.map_cons, dropReturn_append]

/-- So are several lines; then comes the empty line. -/
theorem lines_flatMap {headers : List Bytes} (h : ∀ line ∈ headers, IsLine line)
    (rest : Bytes) :
    (Split.splitOn 0x0A (headers.flatMap (· ++ crlf) ++ crlf ++ rest)).map dropReturn =
      headers ++ [] :: (Split.splitOn 0x0A rest).map dropReturn := by
  induction headers with
  | nil =>
    have hcut : crlf ++ rest = [0x0D] ++ 0x0A :: rest := by simp [crlf]
    rw [List.flatMap_nil, List.nil_append, hcut, Split.splitOn_append_cons (by decide),
      List.map_cons]
    rfl
  | cons line headers ih =>
    have hline := h line List.mem_cons_self
    have hheaders := ih fun other hother => h other (List.mem_cons_of_mem line hother)
    rw [List.flatMap_cons, List.append_assoc, List.append_assoc, lines_append hline,
      ← List.append_assoc, hheaders]
    rfl

/-- **The head of a message** is what stands before its empty line. -/
theorem head?_message {first : Bytes} (hfirst : IsLine first) {headers : List Bytes}
    (hheaders : ∀ line ∈ headers, IsLine line) (body : Bytes) :
    head? (message first headers body) = some (first :: headers) := by
  have hlines : (Split.splitOn 0x0A (message first headers body)).map dropReturn =
      (first :: headers) ++ [] :: (Split.splitOn 0x0A body).map dropReturn := by
    rw [message, lines_append hfirst, lines_flatMap hheaders, List.cons_append]
  have hempty : first.isEmpty = false := by simpa using hfirst.ne_nil
  have hfull : ∀ line ∈ first :: headers, (!line.isEmpty) = true := by
    intro line hline
    rcases List.mem_cons.1 hline with rfl | hline
    · rw [hempty]
      rfl
    · simpa using (hheaders line hline).ne_nil
  have hbody : 0 < (Split.splitOn 0x0A body).length :=
    List.length_pos_iff.2 (Split.splitOn_ne_nil _ _)
  rw [head?, hlines, List.cons_append, List.dropWhile_cons_of_neg (by simp [hempty]),
    ← List.cons_append, List.span_eq_takeWhile_dropWhile, List.takeWhile_append_of_pos hfull,
    List.dropWhile_append_of_pos hfull]
  simp only [List.takeWhile_cons, List.dropWhile_cons, List.isEmpty_nil, Bool.not_true,
    Bool.false_eq_true, if_false, List.append_nil, List.length_cons, List.length_map]
  rw [if_neg (by omega)]

/-! ### Headers -/

/-- A header is a line of its own. -/
theorem isLine_of_isHeader {line : Bytes} (h : isHeader line = true) : IsLine line := by
  simp only [isHeader, isToken, Bool.and_eq_true, List.contains_iff_mem, List.all_eq_true] at h
  obtain ⟨⟨hcolon, -, hname⟩, hvalue⟩ := h
  have hline := Split.splitFirst_append hcolon
  -- a header holds the bytes of its name, a colon, and the bytes of its value
  have hmem : ∀ b ∈ line, isTokenByte b = true ∨ b = 0x3A ∨ isValueByte b = true := by
    intro b hb
    rw [← hline, List.mem_append, List.mem_cons] at hb
    exact hb.imp (hname b) (Or.imp_right (hvalue b))
  have hend : ∀ b : UInt8, b = 0x0A ∨ b = 0x0D → b ∉ line := by
    rintro b (rfl | rfl) hb
    · exact absurd (hmem _ hb) (by decide)
    · exact absurd (hmem _ hb) (by decide)
  refine ⟨?_, hend _ (.inl rfl), ?_⟩
  · rintro rfl
    cases hcolon
  · intro hlast
    exact hend _ (.inr rfl) (List.mem_of_getLast? hlast)

/-- **Headers and body say nothing to a handler**: what is read of a message depends on its
first line alone. -/
theorem read?_message {first : Bytes} (hfirst : IsLine first) {headers headers' : List Bytes}
    (hheaders : ∀ line ∈ headers, isHeader line = true)
    (hheaders' : ∀ line ∈ headers', isHeader line = true) (body body' : Bytes) :
    read? (message first headers body) = read? (message first headers' body') := by
  have hlines := fun line hline => isLine_of_isHeader (hheaders line hline)
  have hlines' := fun line hline => isLine_of_isHeader (hheaders' line hline)
  have hall : headers.all isHeader = headers'.all isHeader := by
    rw [List.all_eq_true.2 hheaders, List.all_eq_true.2 hheaders']
  simp only [read?, head?_message hfirst hlines, head?_message hfirst hlines', hall]

/-! ### What a simple client writes -/

/-! ### First lines -/

/-- A byte of no token is not in one. -/
theorem notMem_of_isToken {token : Bytes} (h : isToken token = true) {b : UInt8}
    (hb : isTokenByte b = false) : b ∉ token := by
  rw [isToken, Bool.and_eq_true, List.all_eq_true] at h
  intro hmem
  rw [h.2 b hmem] at hb
  cases hb

section

variable {method target : Bytes} {what : List Char × Option Bytes}

/-- A target that is read has no byte that would end it. -/
theorem notMem_of_target? (h : target? target = some what) {b : UInt8} (hb : b ≤ 0x20) :
    b ∉ target := by
  intro hmem
  have hany : target.any (fun b => b ≤ 0x20 || b == 0x7F) = true :=
    List.any_eq_true.2 ⟨b, hmem, by simp [hb]⟩
  simp [target?, hany] at h

theorem isLine_firstLine (hmethod : isToken method = true) (htarget : target? target = some what) :
    IsLine (firstLine method target) := by
  refine ⟨by simp [firstLine], ?_, ?_⟩
  · simp only [firstLine, List.mem_append, not_or]
    exact ⟨⟨⟨notMem_of_isToken hmethod (by decide), by decide⟩,
      notMem_of_target? htarget (by decide)⟩, by decide⟩
  · rw [firstLine, List.getLast?_append_of_ne_nil _ (by decide)]
    decide

/-- A first line is told apart into what it was made of. -/
theorem splitOn_firstLine (hmethod : isToken method = true)
    (htarget : target? target = some what) :
    Split.splitOn space (firstLine method target) = [method, target, ascii "HTTP/1.1"] := by
  have hversion : ascii " HTTP/1.1" = space :: ascii "HTTP/1.1" := by decide
  rw [firstLine, List.append_assoc, List.append_assoc, List.singleton_append, hversion,
    Split.splitOn_append_cons (notMem_of_isToken hmethod (by decide)),
    Split.splitOn_append_cons (notMem_of_target? htarget (by decide)),
    Split.splitOn_of_notMem (by decide)]

/-- **What is read of a message is its method and what its target says.** -/
theorem read?_message_firstLine (hmethod : isToken method = true)
    (htarget : target? target = some what) {headers : List Bytes}
    (hheaders : ∀ line ∈ headers, isHeader line = true) (body : Bytes) :
    read? (message (firstLine method target) headers body) =
      some { method := String.ofList (Utf8.decodeLossy method), path := what.1,
             query := what.2 } := by
  have hlines := fun line hline => isLine_of_isHeader (hheaders line hline)
  have hknown : versions.contains (ascii "HTTP/1.1") = true := by decide
  rw [read?, head?_message (isLine_firstLine hmethod htarget) hlines]
  simp only [splitOn_firstLine hmethod htarget, hmethod, hknown, List.all_eq_true.2 hheaders,
    htarget, Bool.and_self, if_true, Option.map_some]

end

/-! ### What a simple client writes -/

/-- A name, a colon and a value are a header. -/
theorem isHeader_append_cons {name value : Bytes} (hname : isToken name = true)
    (hvalue : value.all isValueByte = true) : isHeader (name ++ 0x3A :: value) = true := by
  have hcolon : (0x3A : UInt8) ∉ name := notMem_of_isToken hname (by decide)
  simp only [isHeader, Split.splitFirst_append_cons hcolon, hname, hvalue, Bool.and_true,
    List.contains_iff_mem]
  exact List.mem_append_right name List.mem_cons_self

/-- A number is a value. -/
theorem all_isValueByte_write (n : Nat) :
    (Utf8.encode (Numeral.write n)).all isValueByte = true := by
  have hbyte : ∀ d < 0x3A, 0x30 ≤ d → isValueByte (UInt8.ofNat d) = true := by decide
  rw [List.all_eq_true]
  intro b hb
  obtain ⟨c, hc, hb⟩ := List.mem_flatMap.1 hb
  have hdigit : c.isDigit = true := Nat.isDigit_of_mem_toDigits (by decide) (by decide) hc
  have hrange : 0x30 ≤ c.toNat ∧ c.toNat ≤ 0x39 := Char.isDigit_iff_toNat.1 hdigit
  rw [Utf8.encodeChar, if_pos (by omega), List.mem_singleton] at hb
  rw [hb]
  exact hbyte c.toNat (by omega) hrange.1

theorem isHeader_contentLength (n : Nat) :
    isHeader (ascii "Content-Length: " ++ Utf8.encode (Numeral.write n)) = true := by
  have hcut : ascii "Content-Length: " = ascii "Content-Length" ++ [0x3A, space] := by decide
  have hvalue : (space :: Utf8.encode (Numeral.write n)).all isValueByte = true := by
    rw [List.all_cons, all_isValueByte_write]
    rfl
  rw [hcut, List.append_assoc, List.cons_append, List.singleton_append]
  exact isHeader_append_cons (by decide) hvalue

/-- **What a simple client writes is a message**, and its headers are headers. -/
theorem compose_eq_message (method : String) (target body : List Char) :
    ∃ headers, (∀ line ∈ headers, isHeader line = true) ∧
      compose method target body =
        message (firstLine (ascii method) (Utf8.encode target)) headers (Utf8.encode body) := by
  have hhost : isHeader (ascii "Host: localhost") = true := by decide
  have hclose : isHeader (ascii "Connection: close") = true := by decide
  by_cases hbody : (Utf8.encode body).isEmpty = true
  · refine ⟨[ascii "Host: localhost", ascii "Connection: close"], ?_,
      by simp [compose, message, firstLine, hbody]⟩
    exact List.forall_mem_cons.2 ⟨hhost, List.forall_mem_singleton.2 hclose⟩
  · refine ⟨[ascii "Host: localhost", ascii "Connection: close", ascii "Content-Length: " ++
      Utf8.encode (Numeral.write (Utf8.encode body).length)], ?_,
      by simp [compose, message, firstLine, hbody]⟩
    exact List.forall_mem_cons.2 ⟨hhost, List.forall_mem_cons.2
      ⟨hclose, List.forall_mem_singleton.2 (isHeader_contentLength _)⟩⟩

/-- **A request is read as it was composed**: with its method and with what its target says,
whatever its body is. -/
theorem read?_compose {method : String} (hmethod : isToken (ascii method) = true)
    {target path : List Char} {query? : Option Bytes}
    (htarget : target? (Utf8.encode target) = some (path, query?)) (body : List Char) :
    read? (compose method target body) =
      some { method := method, path := path, query := query? } := by
  obtain ⟨headers, hheaders, hmessage⟩ := compose_eq_message method target body
  have hname : String.ofList (Utf8.decodeLossy (ascii method)) = method := by
    rw [ascii, Utf8.decodeLossy_encode, String.ofList_toList]
  rw [hmessage, read?_message_firstLine hmethod htarget hheaders, hname]

/-- A body is not read, not even one that looks like a request. -/
example :
    read? (compose "POST" "/debug/pprof/heap?x=1".toList "GET / HTTP/1.1\r\n\r\n".toList) =
      some { method := "POST", path := "/debug/pprof/heap".toList,
             query := some (Utf8.encode "x=1".toList) } := by
  decide +kernel

end ProfilingTargets.Http.Wire
