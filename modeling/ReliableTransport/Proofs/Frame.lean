import ReliableTransport.Frame
/-!
This module holds the laws of the frame format. A scan accepts exactly the layouts of messages whose
numbers fit, and it never leaves the data.
-/

namespace ReliableTransport

namespace Frame

@[simp] theorem layoutBody_nil : layoutBody [] = [] := rfl

@[simp] theorem layoutBody_cons (message : Bytes) (rest : List Bytes) :
    layoutBody (message :: rest) = Bytes.ofWord message.length ++ (message ++ layoutBody rest) := by
  simp [layoutBody]

theorem layoutBody_length (messages : List Bytes) :
    (layoutBody messages).length = bodySize messages := by
  induction messages with
  | nil => rfl
  | cons message rest ih =>
      simp only [layoutBody_cons, List.length_append, Bytes.ofWord_length, ih, bodySize, lengthLength]
      omega

/-- The frame has the size that its header declares. -/
theorem layout_length (messages : List Bytes) : (layout messages).length = sizeOf messages := by
  simp only [layout, List.length_append, Bytes.ofWord_length, layoutBody_length, sizeOf, headerLength]

theorem bodySize_append (front back : List Bytes) :
    bodySize (front ++ back) = bodySize front + bodySize back := by
  induction front with
  | nil => simp [bodySize]
  | cons message rest ih =>
      simp only [List.cons_append, bodySize, ih]
      omega

/-- Every message takes its length at least. -/
theorem length_mul_le_bodySize (messages : List Bytes) :
    lengthLength * messages.length ≤ bodySize messages := by
  induction messages with
  | nil => simp [bodySize]
  | cons message rest ih =>
      simp only [List.length_cons, bodySize, Nat.mul_succ]
      omega

/-- A message is not longer than the body that it is part of. -/
theorem length_le_bodySize {messages : List Bytes} {message : Bytes} (member : message ∈ messages) :
    message.length ≤ bodySize messages := by
  induction messages with
  | nil => cases member
  | cons first rest ih =>
      rcases List.mem_cons.mp member with rfl | later
      · simp only [bodySize]
        omega
      · have := ih later
        simp only [bodySize]
        omega

/-- The size field bounds the other two kinds of numbers. -/
theorem fits_of_sizeOf {messages : List Bytes} (small : sizeOf messages < Bytes.wordValues) :
    Fits messages := by
  have counted := length_mul_le_bodySize messages
  simp only [sizeOf, lengthLength] at small counted
  refine ⟨small, by omega, ?_⟩
  intro message member
  have := length_le_bodySize member
  omega

/-- The offset of the cursor and the bytes that are left name the same place in the data. -/
def Cursor.Aligned (data : Bytes) (cursor : Cursor) : Prop :=
  ∃ passed, data = passed ++ cursor.rest ∧ passed.length = cursor.offset

/-- One step depends on the bytes that are left only. Every read stays inside the data. -/
theorem Cursor.next_eq {data : Bytes} {cursor : Cursor} (aligned : cursor.Aligned data) :
    cursor.next data.toArray =
      match Bytes.takeWord? cursor.rest with
      | none => .error (.malformed (.endsInsideLength cursor.messages.size))
      | some (length, rest) =>
        if length ≤ rest.length then
          .ok
            { offset := cursor.offset + lengthLength + length
              rest := rest.drop length
              messages := cursor.messages.push (rest.take length) }
        else .error (.malformed (.messageTooLong cursor.messages.size length rest.length)) := by
  obtain ⟨passed, split, place⟩ := aligned
  cases read : Bytes.takeWord? cursor.rest with
  | none =>
      have short := (Bytes.takeWord?_eq_none_iff _).mp read
      have outside : ¬ cursor.rest.reaches lengthLength := by
        rw [Bytes.reaches_iff, lengthLength]
        omega
      simp [next, outside, throw, throwThe, MonadExceptOf.throw, bind, Except.bind]
  | some found =>
      obtain ⟨length, rest⟩ := found
      have front := Bytes.eq_of_takeWord? read
      have inside : cursor.rest.reaches lengthLength := by
        rw [Bytes.reaches_iff, front, lengthLength]
        simp
      by_cases enough : length ≤ rest.length
      · have reached : rest.reaches length := (Bytes.reaches_iff _ _).mpr enough
        have taken : Bytes.range? data.toArray (cursor.offset + lengthLength) length =
            some (rest.take length) := by
          rw [Bytes.range?_toArray, split, front, ← place, lengthLength]
          rw [if_pos (by simp; omega)]
          simp [← List.append_assoc, List.drop_left']
        simp [next, inside, word, read, reached, skip, taken, enough, bind, Except.bind, pure,
          Except.pure]
      · have unreached : ¬ rest.reaches length := by
          rw [Bytes.reaches_iff]
          exact enough
        simp [next, inside, word, read, unreached, enough, throw, throwThe, MonadExceptOf.throw, bind,
          Except.bind]

/-- A message behind its length is taken, and the cursor stands behind it. -/
theorem Cursor.next_layout {data : Bytes} {cursor : Cursor} (aligned : cursor.Aligned data)
    {message tail : Bytes} (small : message.length < Bytes.wordValues)
    (ahead : cursor.rest = Bytes.ofWord message.length ++ (message ++ tail)) :
    cursor.next data.toArray =
      .ok
        { offset := cursor.offset + lengthLength + message.length
          rest := tail
          messages := cursor.messages.push message } := by
  rw [Cursor.next_eq aligned, ahead, Bytes.takeWord?_ofWord _ small]
  simp

/-- A step that succeeds took a message behind its length. -/
theorem Cursor.next_exact {data : Bytes} {cursor following : Cursor} (aligned : cursor.Aligned data)
    (stepped : cursor.next data.toArray = .ok following) :
    ∃ message : Bytes, message.length < Bytes.wordValues ∧
      cursor.rest = Bytes.ofWord message.length ++ (message ++ following.rest) ∧
      following.messages = cursor.messages.push message ∧ following.Aligned data := by
  rw [Cursor.next_eq aligned] at stepped
  obtain ⟨passed, split, place⟩ := aligned
  cases read : Bytes.takeWord? cursor.rest with
  | none => simp [read] at stepped
  | some found =>
      obtain ⟨length, rest⟩ := found
      have front := Bytes.eq_of_takeWord? read
      by_cases enough : length ≤ rest.length
      · simp only [read, enough, if_true, Except.ok.injEq] at stepped
        subst stepped
        have taken : (rest.take length).length = length := List.length_take_of_le enough
        refine ⟨rest.take length, ?_, ?_, rfl, ?_⟩
        · rw [taken]
          exact Bytes.takeWord?_lt read
        · rw [taken, List.take_append_drop, front]
        · refine ⟨passed ++ Bytes.ofWord length ++ rest.take length, ?_, ?_⟩
          · simp only [List.append_assoc, List.take_append_drop]
            rw [split, front]
          · simp only [List.length_append, Bytes.ofWord_length, taken, place, lengthLength]
      · simp [read, enough] at stepped

/-- A step that stops has found a fault. -/
theorem Cursor.next_stop {data : Bytes} {cursor : Cursor} (aligned : cursor.Aligned data)
    {stop : Stop} (stopped : cursor.next data.toArray = .error stop) :
    ∃ fault, stop = .malformed fault := by
  rw [Cursor.next_eq aligned] at stopped
  split at stopped
  · exact ⟨_, (Except.error.inj stopped).symm⟩
  · split at stopped
    · cases stopped
    · exact ⟨_, (Except.error.inj stopped).symm⟩

/-- The cursor takes the messages of a body that it stands in front of. -/
theorem Cursor.run_layoutBody {data : Bytes} (messages : List Bytes) {cursor : Cursor}
    (aligned : cursor.Aligned data) {tail : Bytes}
    (small : ∀ message ∈ messages, message.length < Bytes.wordValues)
    (ahead : cursor.rest = layoutBody messages ++ tail) :
    ∃ last, cursor.run data.toArray messages.length = .ok last ∧ last.rest = tail ∧
      last.messages.toList = cursor.messages.toList ++ messages := by
  induction messages generalizing cursor with
  | nil => exact ⟨cursor, rfl, by simpa using ahead, by simp⟩
  | cons message rest ih =>
      rw [layoutBody_cons, List.append_assoc, List.append_assoc] at ahead
      have stepped := Cursor.next_layout aligned (small message List.mem_cons_self) ahead
      obtain ⟨_, _, _, _, following⟩ := Cursor.next_exact aligned stepped
      obtain ⟨last, ran, behind, taken⟩ := ih following
        (fun other member => small other (List.mem_cons_of_mem _ member)) rfl
      refine ⟨last, ?_, behind, ?_⟩
      · simp only [List.length_cons, run, stepped, bind, Except.bind]
        exact ran
      · rw [taken]
        simp

/-- A run that succeeds took a body of as many messages as it counted. -/
theorem Cursor.run_exact {data : Bytes} (count : Nat) {cursor last : Cursor}
    (aligned : cursor.Aligned data) (ran : cursor.run data.toArray count = .ok last) :
    ∃ messages : List Bytes, messages.length = count ∧
      cursor.rest = layoutBody messages ++ last.rest ∧
      last.messages.toList = cursor.messages.toList ++ messages := by
  induction count generalizing cursor with
  | zero =>
      cases ran
      exact ⟨[], rfl, by simp, by simp⟩
  | succ count ih =>
      simp only [run, bind, Except.bind] at ran
      split at ran
      · cases ran
      next following stepped =>
        obtain ⟨message, _, front, pushed, moved⟩ := Cursor.next_exact aligned stepped
        obtain ⟨messages, counted, body, taken⟩ := ih moved ran
        refine ⟨message :: messages, by simp [counted], ?_, ?_⟩
        · rw [front, body, layoutBody_cons, List.append_assoc, List.append_assoc]
        · rw [taken, pushed]
          simp

theorem Cursor.run_stop {data : Bytes} (count : Nat) {cursor : Cursor}
    (aligned : cursor.Aligned data) {stop : Stop}
    (stopped : cursor.run data.toArray count = .error stop) : ∃ fault, stop = .malformed fault := by
  induction count generalizing cursor with
  | zero => cases stopped
  | succ count ih =>
      simp only [run, bind, Except.bind] at stopped
      split at stopped
      next _ found =>
        cases stopped
        exact Cursor.next_stop aligned found
      next following stepped =>
        obtain ⟨_, _, _, _, moved⟩ := Cursor.next_exact aligned stepped
        exact ih moved stopped

/-- Data that reaches beyond the header starts with two numbers. -/
theorem header_of_length {data : Bytes} (long : headerLength ≤ data.length) :
    ∃ total count body, total < Bytes.wordValues ∧ count < Bytes.wordValues ∧
      data = Bytes.ofWord total ++ (Bytes.ofWord count ++ body) := by
  have word (bytes : Bytes) (enough : 4 ≤ bytes.length) :
      ∃ value rest, value < Bytes.wordValues ∧ bytes = Bytes.ofWord value ++ rest := by
    cases read : Bytes.takeWord? bytes with
    | none =>
        have short := (Bytes.takeWord?_eq_none_iff bytes).mp read
        omega
    | some found => exact ⟨found.1, found.2, Bytes.takeWord?_lt read, Bytes.eq_of_takeWord? read⟩
  simp only [headerLength] at long
  obtain ⟨total, behind, totalSmall, rfl⟩ := word data (by omega)
  rw [List.length_append, Bytes.ofWord_length] at long
  obtain ⟨count, body, countSmall, rfl⟩ := word behind (by omega)
  exact ⟨total, count, body, totalSmall, countSmall, rfl⟩

/-- The first number must be the size of the data. The second must leave every message the room for
its length. -/
theorem scanHeader_words {total count : Nat} {body data : Bytes}
    (totalSmall : total < Bytes.wordValues) (countSmall : count < Bytes.wordValues)
    (words : data = Bytes.ofWord total ++ (Bytes.ofWord count ++ body)) :
    scanHeader data =
      if total ≠ data.length then .error (.malformed (.sizeMismatch total data.length))
      else if (data.length - headerLength) / lengthLength < count then
        .error (.malformed (.tooManyMessages data.length count))
      else .ok ({ total, count }, { offset := headerLength, rest := body, messages := #[] }) := by
  have long : ¬ data.length < headerLength := by
    have size := congrArg List.length words
    simp only [List.length_append, Bytes.ofWord_length] at size
    simp only [headerLength]
    omega
  have first : Bytes.takeWord? data = some (total, Bytes.ofWord count ++ body) := by
    rw [words, Bytes.takeWord?_ofWord total totalSmall]
  have second := Bytes.takeWord?_ofWord count countSmall body
  simp only [scanHeader, long, if_false, Cursor.word, bind, Except.bind, first, second]
  split
  · rfl
  · split <;> rfl

/-- A frame starts with the two numbers of its header. -/
theorem scanHeader_layout {messages : List Bytes} (fits : Fits messages) :
    scanHeader (layout messages) =
      .ok ({ total := sizeOf messages, count := messages.length },
        { offset := headerLength, rest := layoutBody messages, messages := #[] }) := by
  have enough : ¬ (sizeOf messages - headerLength) / lengthLength < messages.length := by
    have counted := length_mul_le_bodySize messages
    simp only [sizeOf, headerLength, lengthLength] at counted ⊢
    omega
  rw [scanHeader_words fits.1 fits.2.1 (by rw [layout, List.append_assoc]), layout_length,
    if_neg (by simp), if_neg enough]

/-- A header that is accepted declares the size of the data. The cursor stands behind it. -/
theorem scanHeader_exact {data : Bytes} {header : Header} {cursor : Cursor}
    (read : scanHeader data = .ok (header, cursor)) :
    data.length < Bytes.wordValues ∧ header.count < Bytes.wordValues ∧
      data = Bytes.ofWord data.length ++ (Bytes.ofWord header.count ++ cursor.rest) ∧
      cursor.messages = #[] ∧ cursor.Aligned data := by
  by_cases long : headerLength ≤ data.length
  · obtain ⟨total, count, body, totalSmall, countSmall, words⟩ := header_of_length long
    rw [scanHeader_words totalSmall countSmall words] at read
    split at read
    · cases read
    next same =>
      split at read
      · cases read
      · have total_eq : total = data.length := by omega
        simp only [Except.ok.injEq, Prod.mk.injEq] at read
        obtain ⟨rfl, rfl⟩ := read
        refine ⟨total_eq ▸ totalSmall, countSmall, total_eq ▸ words, rfl, ?_⟩
        exact ⟨Bytes.ofWord total ++ Bytes.ofWord count, by rw [List.append_assoc]; exact words, rfl⟩
  · rw [scanHeader, if_pos (by omega)] at read
    cases read

theorem scanHeader_stop {data : Bytes} {stop : Stop} (stopped : scanHeader data = .error stop) :
    ∃ fault, stop = .malformed fault := by
  by_cases long : headerLength ≤ data.length
  · obtain ⟨total, count, body, totalSmall, countSmall, words⟩ := header_of_length long
    rw [scanHeader_words totalSmall countSmall words] at stopped
    split at stopped
    · exact ⟨_, (Except.error.inj stopped).symm⟩
    · split at stopped
      · exact ⟨_, (Except.error.inj stopped).symm⟩
      · cases stopped
  · rw [scanHeader, if_pos (by omega)] at stopped
    exact ⟨_, (Except.error.inj stopped).symm⟩

/-- A scan gives back the messages of a frame. -/
theorem scan_layout {messages : List Bytes} (fits : Fits messages) :
    scan (layout messages) = .ok messages := by
  have header := scanHeader_layout fits
  obtain ⟨_, _, _, _, aligned⟩ := scanHeader_exact header
  obtain ⟨last, ran, behind, taken⟩ :=
    Cursor.run_layoutBody messages aligned fits.2.2 (List.append_nil _).symm
  simp only [scan, header, ran, bind, Except.bind]
  simp [behind, taken, pure, Except.pure]

/-- Data that a scan accepts is the frame of the messages that it found. -/
theorem scan_exact {data : Bytes} {messages : List Bytes} (read : scan data = .ok messages) :
    Fits messages ∧ data = layout messages := by
  simp only [scan, bind, Except.bind] at read
  split at read
  · cases read
  next header accepted =>
    obtain ⟨sizeSmall, countSmall, front, start, aligned⟩ := scanHeader_exact accepted
    split at read
    · cases read
    next last ran =>
      obtain ⟨found, counted, body, taken⟩ := Cursor.run_exact _ aligned ran
      split at read
      · cases read
      next empty =>
        have behind : last.rest = [] := by simpa using empty
        have same : found = messages := by
          rw [start] at taken
          simpa [pure, Except.pure, taken] using read
        subst same
        rw [behind, List.append_nil] at body
        rw [body, ← counted] at front
        have size : data.length = sizeOf found := by
          rw [front]
          simp only [List.length_append, Bytes.ofWord_length, layoutBody_length, sizeOf, headerLength]
          omega
        refine ⟨fits_of_sizeOf (size ▸ sizeSmall), ?_⟩
        rw [layout, ← size, List.append_assoc]
        exact front

/-- A scan that stops has found a fault. -/
theorem scan_stop {data : Bytes} {stop : Stop} (stopped : scan data = .error stop) :
    ∃ fault, stop = .malformed fault := by
  simp only [scan, bind, Except.bind] at stopped
  split at stopped
  next _ refused =>
    cases stopped
    exact scanHeader_stop refused
  next header accepted =>
    obtain ⟨_, _, _, _, aligned⟩ := scanHeader_exact accepted
    split at stopped
    next _ found =>
      cases stopped
      exact Cursor.run_stop _ aligned found
    · split at stopped
      · exact ⟨_, (Except.error.inj stopped).symm⟩
      · cases stopped

end Frame

end ReliableTransport
