import Lexis.Proofs.Input.Transcript

/-!
# No byte is lost

A buffered input holds exactly the bytes between two offsets of the data: how many are consumed,
and the next one to fetch. A source may fail at any read and may copy less than it could, so the
input may fail, come short, or take a place inside the data for its end; but nothing that it hands
out is out of place, and nothing is handed out twice or passed over.

The statement follows the requests of a run one by one. What has been consumed is a list of units
that begins empty and grows by what `next` hands out and what `skip` counts, and by nothing else.

Principal results:

* `Keeps.perform` — one request;
* `Keeps.conserves` — any number of requests, for an input that keeps to its data;
* `Input.conserves_of_source` — both buffered inputs, whatever the source does.
-/

namespace Lexis

open Text

/-- The bytes held are those between two offsets of the data: `q`, which is behind the bytes that
are consumed, and the next one to fetch. -/
structure Blocks.HoldsFrom (bytes : List UInt8) (q : Nat) (b : Blocks) : Prop where
  held : b.held = (bytes.drop q).take (b.fetched - q)
  room : b.held.length ≤ b.fetched
  offset : b.fetched - b.held.length = q
  inside : b.fetched ≤ bytes.length

theorem Blocks.At.holdsFrom {origin : Source} {q : Nat} {b : Blocks} (h : b.At origin q) :
    b.HoldsFrom origin.bytes q := by
  have hfetched := h.fetched
  refine ⟨?_, by omega, by omega, h.fetched_le⟩
  have hcount : b.fetched - q = b.held.length := by omega
  rw [hcount]
  exact List.prefix_iff_eq_take.1 h.held

/-- Buffered bytes that have consumed `done`: these are the first bytes of the data, those that
follow are held as far as they are fetched, and the position is how many are consumed. -/
structure BufferedBytes.Exact (bytes : List UInt8) (done : List UInt8) (i : BufferedBytes) :
    Prop where
  consumed : bytes.take done.length = done
  blocks : i.blocks.HoldsFrom bytes done.length
  position : Input.position i = done.length

/-- Buffered characters that have consumed `done`: their bytes are the first ones of the data, those
that follow are held as far as they are fetched, and the position is how many characters are
consumed. -/
structure BufferedText.Exact (bytes : List UInt8) (done : List Char) (i : BufferedText) :
    Prop where
  consumed : bytes.take (byteLength done) = encode done
  blocks : i.blocks.HoldsFrom bytes (byteLength done)
  position : Input.position i = done.length

/-- What an answer to a request may be, and what the request consumes. A chunk has `InFront`, so it
is what the data goes on with, and is no longer than asked for; `next` consumes the chunk that it
hands out and `skip` the one that it counts, and nothing else consumes anything. -/
inductive Serves {α : Type} (length place : Nat) (InFront : List α → Prop) (Fails : Fault → Prop) :
    Request → Except Fault (Reply (List α)) → List α → Prop where
  | peek {count : Nat} {chunk : List α} : InFront chunk → chunk.length ≤ count →
      Serves length place InFront Fails (.peek count) (.ok (.chunk chunk)) []
  | next {count : Nat} {chunk : List α} : InFront chunk → chunk.length ≤ count →
      Serves length place InFront Fails (.next count) (.ok (.chunk chunk)) chunk
  | skip {count : Nat} {chunk : List α} : InFront chunk → chunk.length ≤ count →
      Serves length place InFront Fails (.skip count) (.ok (.count chunk.length)) chunk
  | size : Serves length place InFront Fails .size (.ok (.count length)) []
  | position : Serves length place InFront Fails .position (.ok (.count place)) []
  | failed {request : Request} {fault : Fault} : Fails fault →
      Serves length place InFront Fails request (.error fault) []

/-- Requests are made of an input that has consumed `done`: before each of them and at the end the
input is where it should be, and each request is served and consumes what it should. -/
def Conserves {ι α : Type} [Chunk (List α)] [Input ι (List α)] (length : Nat)
    (Exact : List α → ι → Prop) (InFront : List α → List α → Prop) (Fails : Fault → Prop) :
    List α → List Request → ι → Prop
  | done, [], i => Exact done i
  | done, request :: requests, i =>
    Exact done i ∧ ∃ passed,
      Serves length done.length (InFront done) Fails request (Input.perform i request).1 passed ∧
      Conserves length Exact InFront Fails (done ++ passed) requests (Input.perform i request).2

/-! ## Inputs that keep to their data -/

/-- An input for which `At` is kept: a request for units fails for one of the reasons or gives what
the data goes on with, and then that much can be passed. -/
structure Keeps {ι α : Type} [Chunk (List α)] [Input ι (List α)] (length : Nat)
    (At : List α → ι → Prop) (InFront : List α → List α → Prop) (Fails : Fault → Prop) :
    Prop where
  units : ∀ chunk : List α, Chunk.units chunk = chunk.length
  position : ∀ {done i}, At done i → Input.position i = done.length
  size : ∀ {done i}, At done i →
    Input.size i = .ok length ∨ ∃ fault, Input.size i = .error fault ∧ Fails fault
  peek : ∀ {done i}, At done i → ∀ count,
    (∃ fault i', Input.peek count i = (.error fault, i') ∧ Fails fault ∧ At done i') ∨
    ∃ chunk i', Input.peek count i = (.ok chunk, i') ∧ InFront done chunk ∧
      chunk.length ≤ count ∧ At done i' ∧ At (done ++ chunk) (Input.advance chunk.length i')

namespace Keeps

variable {ι α : Type} [Chunk (List α)] [Input ι (List α)] {length : Nat}
  {At Exact : List α → ι → Prop} {InFront : List α → List α → Prop} {Fails : Fault → Prop}

theorem perform (h : Keeps length At InFront Fails) {done : List α} {i : ι} (hat : At done i)
    (request : Request) : ∃ passed,
      Serves length done.length (InFront done) Fails request (Input.perform i request).1 passed ∧
      At (done ++ passed) (Input.perform i request).2 := by
  have hstays : At (done ++ []) i := by
    rw [List.append_nil]
    exact hat
  cases request with
  | size =>
    refine ⟨[], ?_, hstays⟩
    rcases h.size hat with hsize | ⟨fault, hsize, hfails⟩
    · simp only [Input.perform, hsize]
      exact .size
    · simp only [Input.perform, hsize]
      exact .failed hfails
  | position =>
    refine ⟨[], ?_, hstays⟩
    simp only [Input.perform, h.position hat]
    exact .position
  | peek count =>
    refine ⟨[], ?_⟩
    rw [List.append_nil]
    rcases h.peek hat count with
      ⟨fault, i', hpeek, hfails, hat'⟩ | ⟨chunk, i', hpeek, hfront, hlength, hat', -⟩
    · simp only [Input.perform, hpeek]
      exact ⟨.failed hfails, hat'⟩
    · simp only [Input.perform, hpeek]
      exact ⟨.peek hfront hlength, hat'⟩
  | next count =>
    rcases h.peek hat count with
      ⟨fault, i', hpeek, hfails, hat'⟩ | ⟨chunk, i', hpeek, hfront, hlength, -, hpassed⟩
    · refine ⟨[], ?_⟩
      simp only [Input.perform, Input.next, hpeek, List.append_nil]
      exact ⟨.failed hfails, hat'⟩
    · refine ⟨chunk, ?_⟩
      simp only [Input.perform, Input.next, hpeek, h.units]
      exact ⟨.next hfront hlength, hpassed⟩
  | skip count =>
    rcases h.peek hat count with
      ⟨fault, i', hpeek, hfails, hat'⟩ | ⟨chunk, i', hpeek, hfront, hlength, -, hpassed⟩
    · refine ⟨[], ?_⟩
      simp only [Input.perform, Input.skip, hpeek, List.append_nil]
      exact ⟨.failed hfails, hat'⟩
    · refine ⟨chunk, ?_⟩
      simp only [Input.perform, Input.skip, hpeek, h.units]
      exact ⟨.skip hfront hlength, hpassed⟩

theorem conserves (h : Keeps length At InFront Fails)
    (hexact : ∀ {done i}, At done i → Exact done i) (requests : List Request) :
    ∀ {done : List α} {i : ι}, At done i → Conserves length Exact InFront Fails done requests i := by
  induction requests with
  | nil =>
    intro done i hat
    exact hexact hat
  | cons request requests ih =>
    intro done i hat
    obtain ⟨passed, hserves, hat'⟩ := h.perform hat request
    exact ⟨hexact hat, passed, hserves, ih hat'⟩

end Keeps

/-! ## Buffered inputs -/

/-- The source gives the reason at one of its reads, or for not telling its length. -/
def Source.Blamed (origin : Source) (reason : String) : Prop :=
  origin.Refuses reason ∨ origin.sizeFault = some reason

/-- The faults of buffered bytes: those of the source. -/
def BufferedBytes.Fails (origin : Source) (fault : Fault) : Prop :=
  ∃ reason, fault = .unreadable reason ∧ origin.Blamed reason

/-- The faults of buffered characters: those of the source, and bytes that are no text, or seem to
be none since the source came short. -/
def BufferedText.Fails (origin : Source) (fault : Fault) : Prop :=
  BufferedBytes.Fails origin fault ∨ ∃ position, fault = .undecodable position

theorem Blocks.At.size {origin : Source} {q : Nat} {b : Blocks} (h : b.At origin q) :
    b.source.size = .ok origin.bytes.length ∨
      ∃ fault, b.source.size = .error fault ∧ BufferedBytes.Fails origin fault := by
  obtain ⟨hbytes, -, hfault⟩ := h.source
  unfold Source.size
  rw [hbytes, hfault]
  cases hsize : origin.sizeFault with
  | none => exact Or.inl rfl
  | some reason => exact Or.inr ⟨_, rfl, reason, rfl, Or.inr hsize⟩

namespace BufferedBytes

/-- The input is behind the bytes `done` of the source. -/
def Past (origin : Source) (done : List UInt8) (i : BufferedBytes) : Prop :=
  i.At origin done.length ∧ done <+: origin.bytes

theorem Past.exact {origin : Source} {done : List UInt8} {i : BufferedBytes}
    (h : Past origin done i) : Exact origin.bytes done i :=
  ⟨(List.prefix_iff_eq_take.1 h.2).symm, Blocks.At.holdsFrom h.1, h.1.position_eq⟩

theorem keeps (origin : Source) : Keeps origin.bytes.length (Past origin)
    (fun done chunk => chunk <+: origin.bytes.drop done.length) (Fails origin) where
  units _ := rfl
  position h := h.1.position_eq
  size h := Blocks.At.size h.1
  peek := by
    rintro done i ⟨hat, hdone⟩ count
    rcases hat.peek count with ⟨reason, i', hpeek, hat', hreason⟩ | ⟨i', hpeek, hat', -⟩
    · exact Or.inl ⟨_, i', hpeek, ⟨reason, rfl, Or.inl hreason⟩, hat', hdone⟩
    · right
      have hheld : i'.blocks.held.take count <+: i'.blocks.held := List.take_prefix _ _
      have hfront : i'.blocks.held.take count <+: origin.bytes.drop done.length :=
        hheld.trans (Blocks.At.held hat')
      have hpassed := Blocks.At.consume hat' hheld.length_le
      refine ⟨_, i', hpeek, hfront, List.length_take_le _ _, ⟨hat', hdone⟩, ?_, ?_⟩
      · rw [List.length_append]
        exact hpassed
      · obtain ⟨rest, hrest⟩ := hdone
        rw [← hrest, List.drop_left] at hfront
        rw [← hrest]
        exact (List.prefix_append_right_inj _).2 hfront

end BufferedBytes

namespace BufferedText

theorem At.exact {origin : Source} {done : List Char} {i : BufferedText} (h : i.At origin done) :
    Exact origin.bytes done i := by
  have hconsumed := List.prefix_iff_eq_take.1 h.behind
  rw [length_encode] at hconsumed
  exact ⟨hconsumed.symm, h.blocks.holdsFrom, h.position⟩

theorem keeps (origin : Source) : Keeps origin.bytes.length (fun done i => At origin done i)
    (fun done chunk => encode chunk <+: origin.bytes.drop (byteLength done)) (Fails origin) where
  units _ := rfl
  position h := h.position
  size h := by
    rcases h.blocks.size with hsize | ⟨fault, hsize, hfails⟩
    · exact Or.inl hsize
    · exact Or.inr ⟨fault, hsize, Or.inl hfails⟩
  peek := by
    intro done i hat count
    rcases hat.peek count with
      ⟨reason, i', hpeek, hat', hreason⟩ | ⟨i', hpeek, hat', -⟩ | ⟨position, i', hpeek, hat', -⟩
    · exact Or.inl ⟨_, i', hpeek, Or.inl ⟨reason, rfl, Or.inl hreason⟩, hat'⟩
    · right
      have hfront : encode (i'.text.take count) <+: origin.bytes.drop (byteLength done) :=
        ((encode_isPrefix (List.take_prefix _ _)).trans (encode_decode_isPrefix _)).trans
          hat'.blocks.held
      have hpassed := hat'.advance (i'.text.take count).length
      rw [← List.prefix_iff_eq_take.1 (List.take_prefix count i'.text)] at hpassed
      exact ⟨_, i', hpeek, hfront, List.length_take_le _ _, hat', hpassed⟩
    · exact Or.inl ⟨_, i', hpeek, Or.inr ⟨position, rfl⟩, hat'⟩

end BufferedText

/-- **No byte is lost, repeated or invented.** Whatever a source does, whichever block size is
chosen and whatever is asked of a buffered input, also after failures: at each request the input
holds exactly the bytes of the data from those that it has consumed up to the next one to fetch, its
position is how many units it has consumed, it answers with what the data goes on with, or fails and
consumes nothing. -/
theorem Input.conserves_of_source (source : Source) (blockSize : Nat) (requests : List Request) :
    Conserves source.bytes.length (BufferedBytes.Exact source.bytes)
      (fun done chunk => chunk <+: source.bytes.drop done.length) (BufferedBytes.Fails source)
      [] requests (BufferedBytes.ofSource source blockSize) ∧
    Conserves source.bytes.length (BufferedText.Exact source.bytes)
      (fun done chunk => encode chunk <+: source.bytes.drop (byteLength done))
      (BufferedText.Fails source) [] requests (BufferedText.ofSource source blockSize) := by
  constructor
  · have hstart : BufferedBytes.Past source [] (BufferedBytes.ofSource source blockSize) :=
      ⟨BufferedBytes.at_ofSource source blockSize, List.nil_prefix⟩
    exact (BufferedBytes.keeps source).conserves BufferedBytes.Past.exact requests hstart
  · have hstart := BufferedText.at_ofSource source blockSize
    exact (BufferedText.keeps source).conserves BufferedText.At.exact requests hstart

end Lexis
