import StackTape.Exchange.Sink

namespace StackTape

/-!
# Rows of emissions

What a sink becomes when it takes a row of emissions, and how it refuses one.  Sinks of
every kind show the renderings one after the other.  Only a device with a limit refuses:
the first emission for which it has not enough room, of which it may hold the beginning
when the emission takes several writes.
-/

namespace Emission

/-- The renderings of emissions one after the other. -/
def rendered (emissions : List Emission) : Text :=
  (emissions.map render).flatten

/-- The line that announces an emission. -/
def announced (emission : Emission) : Text :=
  Sink.announcement ++ emission.render ++ ['\n']

/-- The lines that announce emissions one after the other. -/
def announcedAll (emissions : List Emission) : Text :=
  (emissions.map announced).flatten

@[simp] theorem rendered_append
    (first second : List Emission) :
    rendered (first ++ second) = rendered first ++ rendered second := by
  simp [rendered]

@[simp] theorem announcedAll_append
    (first second : List Emission) :
    announcedAll (first ++ second) =
      announcedAll first ++ announcedAll second := by
  simp [announcedAll]

end Emission

namespace Device

/-- How many bytes the device holds. -/
def size (device : Device) : Nat :=
  Text.utf8Size device.contents

/-- The device holds no more than its limit. -/
def IsWithinLimit (device : Device) : Prop :=
  ∀ bound, device.limit = some bound → device.size ≤ bound

/-- The device after a text was written to it. -/
structure Extends
    (device : Device)
    (text : Text)
    (after : Device) : Prop where
  contents : after.contents = device.contents ++ text
  limit : after.limit = device.limit
  within : device.IsWithinLimit → after.IsWithinLimit

theorem Extends.nothing
    (device : Device) :
    device.Extends [] device where
  contents := by simp
  limit := rfl
  within := id

theorem Extends.trans
    {device middle after : Device}
    {first second : Text}
    (firstExtends : device.Extends first middle)
    (secondExtends : middle.Extends second after) :
    device.Extends (first ++ second) after where
  contents := by
    rw [secondExtends.contents, firstExtends.contents, List.append_assoc]
  limit := secondExtends.limit.trans firstExtends.limit
  within fits := secondExtends.within (firstExtends.within fits)

/-- The device has not enough room left for a text. -/
def Lacks
    (device : Device)
    (text : Text) : Prop :=
  ∃ bound,
    device.limit = some bound ∧ bound < device.size + Text.utf8Size text

/-- A write succeeds, or there is not enough room for it. -/
theorem write?_cases
    (device : Device)
    (text : Text) :
    (∃ after, device.write? text = some after ∧ device.Extends text after) ∨
      device.write? text = none ∧ device.Lacks text := by
  cases written : device.write? text with
  | some after =>
      have contents := contents_of_write? written
      refine .inl ⟨after, rfl, contents, ?_, fun fits => ?_⟩
      · unfold write? at written
        split at written
        · cases written
          rfl
        · split at written <;> cases written
          rfl
      · unfold write? at written
        split at written
        · cases written
          exact fits
        · split at written
          · rename_i room
            cases written
            intro bound limited
            have limited : device.limit = some bound := limited
            simp only [hasRoom, limited, decide_eq_true_eq] at room
            rw [size, contents, Text.utf8Size_append]
            exact room
          · cases written
  | none =>
      refine .inr ⟨rfl, ?_⟩
      unfold write? at written
      split at written
      · cases written
      · split at written
        · cases written
        · rename_i full
          unfold hasRoom at full
          split at full
          · exact absurd rfl full
          · rename_i bound limited
            refine ⟨bound, limited, ?_⟩
            simp only [decide_eq_true_eq] at full
            unfold size
            omega

/-- Writes one after the other succeed, or one of them lacks room. -/
theorem writeAll_cases
    (device : Device)
    (pieces : List Text) :
    (∃ after,
        Sink.writeAll device pieces = (after, true) ∧
          device.Extends pieces.flatten after) ∨
      ∃ front piece back after,
        pieces = front ++ piece :: back ∧
          Sink.writeAll device pieces = (after, false) ∧
          device.Extends front.flatten after ∧
          after.Lacks piece := by
  induction pieces generalizing device with
  | nil =>
      exact .inl ⟨device, rfl, .nothing device⟩
  | cons first rest inductionHypothesis =>
      rcases write?_cases device first with
        ⟨middle, written, extended⟩ | ⟨refused, lacks⟩
      · rcases inductionHypothesis middle with
          ⟨after, others, onward⟩ |
            ⟨front, piece, back, after, shape, others, onward, lacks⟩
        · exact .inl ⟨after, by simp [Sink.writeAll, written, others],
            by simpa using extended.trans onward⟩
        · exact .inr ⟨first :: front, piece, back, after, by simp [shape],
            by simp [Sink.writeAll, written, others],
            by simpa using extended.trans onward, lacks⟩
      · exact .inr ⟨[], first, rest, device, rfl,
          by simp [Sink.writeAll, refused], .nothing device, lacks⟩

end Device

namespace Sink

/-- Take emissions one after the other, up to the first that is refused. -/
def emitAll
    (sink : Sink)
    (emissions : List Emission) : Except Sink Sink :=
  emissions.foldlM emit sink

/-- The limit of the device that the sink writes to. -/
def limit? : Sink → Option Nat
  | .emissions _ | .text _ =>
      none
  | .plain device | .announced device _ =>
      device.limit

/-- The sink's device holds no more than its limit. -/
def IsWithinLimit : Sink → Prop
  | .emissions _ | .text _ =>
      True
  | .plain device | .announced device _ =>
      device.IsWithinLimit

/-- The sink after it took emissions. -/
inductive Becomes (emissions : List Emission) : Sink → Sink → Prop where
  | emissions
      (newestFirst : List Emission) :
      Becomes emissions (.emissions newestFirst)
        (.emissions (emissions.reverse ++ newestFirst))
  | text
      (newestFirst : List Text) :
      Becomes emissions (.text newestFirst)
        (.text ((emissions.map Emission.render).reverse ++ newestFirst))
  /-- The device was written the renderings. -/
  | plain
      {device after : Device}
      (extended : device.Extends (Emission.rendered emissions) after) :
      Becomes emissions (.plain device) (.plain after)
  /-- The device was written the announcing lines, the transcript has the renderings. -/
  | announced
      {device after : Device}
      (extended : device.Extends (Emission.announcedAll emissions) after)
      (transcript : List Text) :
      Becomes emissions (.announced device transcript)
        (.announced after
          ((emissions.map Emission.render).reverse ++ transcript))

/-- How a sink refuses an emission, and what is left of it. -/
inductive Refuses (emission : Emission) : Sink → Sink → Prop where
  /-- There is not enough room for the rendering. -/
  | plain
      {device : Device}
      (lacks : device.Lacks emission.render) :
      Refuses emission (.plain device) (.plain device)
  /--
  There is not enough room for the announcing line.  The device was written the
  beginning of it, the transcript has nothing of it.
  -/
  | announced
      {device after : Device}
      {begun missing : Text}
      (lacks : device.Lacks emission.announced)
      (extended : device.Extends begun after)
      (line : begun ++ missing = emission.announced)
      (transcript : List Text) :
      Refuses emission (.announced device transcript)
        (.announced after transcript)

namespace Becomes

theorem nothing
    (sink : Sink) :
    Becomes [] sink sink := by
  cases sink with
  | emissions newestFirst =>
      exact .emissions newestFirst
  | text newestFirst =>
      exact .text newestFirst
  | plain device =>
      exact .plain (.nothing device)
  | announced device transcript =>
      exact .announced (.nothing device) transcript

/-- Rows of emissions one after the other. -/
theorem append
    {sink middle final : Sink}
    {first second : List Emission}
    (firstBecomes : Becomes first sink middle)
    (secondBecomes : Becomes second middle final) :
    Becomes (first ++ second) sink final := by
  cases firstBecomes with
  | emissions newestFirst =>
      cases secondBecomes
      have both : Becomes (first ++ second) _ _ := .emissions newestFirst
      simpa using both
  | text newestFirst =>
      cases secondBecomes
      have both : Becomes (first ++ second) _ _ := .text newestFirst
      simpa using both
  | plain extended =>
      cases secondBecomes with
      | plain onward =>
          refine .plain ?_
          rw [Emission.rendered_append]
          exact extended.trans onward
  | announced extended transcript =>
      cases secondBecomes with
      | announced onward =>
          have lines := extended.trans onward
          rw [← Emission.announcedAll_append] at lines
          simpa using Becomes.announced lines transcript

/-- Every sink shows the renderings behind what it showed before. -/
theorem output
    {sink final : Sink}
    {emissions : List Emission}
    (becomes : Becomes emissions sink final) :
    final.output = sink.output ++ Emission.rendered emissions := by
  cases becomes with
  | emissions | text =>
      simp [Sink.output, Emission.rendered]
  | plain extended =>
      exact extended.contents
  | announced =>
      simp [Sink.output, Emission.rendered]

theorem limit?
    {sink final : Sink}
    {emissions : List Emission}
    (becomes : Becomes emissions sink final) :
    final.limit? = sink.limit? := by
  cases becomes with
  | emissions | text =>
      rfl
  | plain extended | announced extended =>
      exact extended.limit

theorem within
    {sink final : Sink}
    {emissions : List Emission}
    (becomes : Becomes emissions sink final)
    (fits : sink.IsWithinLimit) :
    final.IsWithinLimit := by
  cases becomes with
  | emissions | text =>
      trivial
  | plain extended | announced extended =>
      exact extended.within fits

end Becomes

namespace Refuses

/-- Nothing of a refused emission is shown. -/
theorem output
    {sink refusing : Sink}
    {emission : Emission}
    (refuses : Refuses emission sink refusing) :
    refusing.output = sink.output := by
  cases refuses <;> rfl

/-- Only a device with a limit refuses. -/
theorem exists_limit
    {sink refusing : Sink}
    {emission : Emission}
    (refuses : Refuses emission sink refusing) :
    ∃ bound, sink.limit? = some bound := by
  cases refuses with
  | plain lacks | announced lacks =>
      exact lacks.imp fun _ => And.left

end Refuses

/-- An emission is taken, or refused. -/
theorem emit_cases
    (sink : Sink)
    (emission : Emission) :
    (∃ after, sink.emit emission = .ok after ∧ Becomes [emission] sink after) ∨
      ∃ after, sink.emit emission = .error after ∧ Refuses emission sink after := by
  cases sink with
  | emissions newestFirst =>
      exact .inl ⟨_, rfl, .emissions newestFirst⟩
  | text newestFirst =>
      exact .inl ⟨_, rfl, .text newestFirst⟩
  | plain device =>
      rcases device.write?_cases emission.render with
        ⟨after, written, extended⟩ | ⟨refused, lacks⟩
      · exact .inl ⟨.plain after, by simp [emit, written],
          .plain (by simpa [Emission.rendered] using extended)⟩
      · exact .inr ⟨.plain device, by simp [emit, refused], .plain lacks⟩
  | announced device transcript =>
      rcases device.writeAll_cases [announcement, emission.render, ['\n']] with
        ⟨after, written, extended⟩ |
          ⟨front, piece, back, after, shape, refused, extended, lacks⟩
      · refine .inl ⟨.announced after (emission.render :: transcript),
          by simp [emit, written], .announced ?_ transcript⟩
        simpa [Emission.announcedAll, Emission.announced] using extended
      · have line : front.flatten ++ (piece ++ back.flatten) = emission.announced := by
          have flat := congrArg List.flatten shape
          simpa [Emission.announced] using flat.symm
        refine .inr ⟨.announced after transcript, by simp [emit, refused],
          .announced ?_ extended line transcript⟩
        obtain ⟨bound, limited, exceeds⟩ := lacks
        refine ⟨bound, extended.limit ▸ limited, ?_⟩
        rw [Device.size, extended.contents, Text.utf8Size_append] at exceeds
        rw [← line, Text.utf8Size_append, Text.utf8Size_append, Device.size]
        omega

theorem emitAll_singleton
    (sink : Sink)
    (emission : Emission) :
    sink.emitAll [emission] = sink.emit emission := by
  change (sink.emit emission).bind .ok = sink.emit emission
  cases sink.emit emission <;> rfl

theorem emitAll_append
    (sink : Sink)
    (first second : List Emission) :
    sink.emitAll (first ++ second) =
      (sink.emitAll first).bind fun middle => middle.emitAll second :=
  List.foldlM_append

/-- A row of emissions is taken, or the first of them that is refused ends it. -/
theorem emitAll_cases
    (sink : Sink)
    (emissions : List Emission) :
    (∃ final, sink.emitAll emissions = .ok final ∧ Becomes emissions sink final) ∨
      ∃ earlier emission later full refusing,
        emissions = earlier ++ emission :: later ∧
          sink.emitAll emissions = .error refusing ∧
          Becomes earlier sink full ∧
          Refuses emission full refusing := by
  induction emissions generalizing sink with
  | nil =>
      exact .inl ⟨sink, rfl, .nothing sink⟩
  | cons first rest inductionHypothesis =>
      have unfolded :
          sink.emitAll (first :: rest) =
            (sink.emit first).bind fun middle => middle.emitAll rest :=
        rfl
      rcases emit_cases sink first with
        ⟨middle, taken, became⟩ | ⟨refusing, refused, refuses⟩
      · rw [unfolded, taken]
        rcases inductionHypothesis middle with
          ⟨final, others, onward⟩ |
            ⟨earlier, emission, later, full, refusing, shape, others, onward,
              refuses⟩
        · exact .inl ⟨final, others, became.append onward⟩
        · exact .inr ⟨first :: earlier, emission, later, full, refusing,
            by simp [shape], others, became.append onward, refuses⟩
      · exact .inr ⟨[], first, rest, sink, refusing, rfl,
          by rw [unfolded, refused]; rfl, .nothing sink, refuses⟩

/-- A place for emissions takes every row. -/
theorem emitAll_emissions
    (newestFirst emissions : List Emission) :
    (Sink.emissions newestFirst).emitAll emissions =
      .ok (.emissions (emissions.reverse ++ newestFirst)) := by
  rcases emitAll_cases (.emissions newestFirst) emissions with
    ⟨final, taken, becomes⟩ | ⟨_, _, _, _, _, -, -, becomes, refuses⟩
  · cases becomes
    exact taken
  · cases becomes
    cases refuses

end Sink

end StackTape
