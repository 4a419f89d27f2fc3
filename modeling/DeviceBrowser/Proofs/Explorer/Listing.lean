import DeviceBrowser.Explorer.Operations
import DeviceBrowser.Proofs.Listing.Page
import DeviceBrowser.Proofs.Session.Conversation
import DeviceBrowser.Proofs.Session.Lifecycle
import DeviceBrowser.Proofs.Terminal.ControlSequence

/-!
From the bytes of a shell to a listing.

When a connected explorer lists a directory and the shell prints a page, with control
sequences anywhere in it and cut into any chunks, the listing that comes back is the one
on the page.
-/

namespace DeviceBrowser

open Terminal Text Listing

variable {World : Type} {host : Host World} {world later : World}

theorem Session.answerText_pieces {pieces : List Piece}
    (wellFormed : ∀ piece ∈ pieces, piece.isWellFormed = true) :
    answerText (pieces.flatMap Piece.bytes) =
      String.ofList (trimLineEnds (pieces.flatMap Piece.text)) := by
  rw [answerText, plainText, plainChars_pieces wellFormed, withoutLineEnds, String.toList_ofList]

namespace Explorer

variable {explorer : Explorer} {session : Session}

theorem run_tryCommand {command answer : String} {next : Session}
    (link : explorer.link = .connected) (present : explorer.session = some session)
    (running : session.isRunning = true) (stillRunning : next.isRunning = true)
    (answered : (session.execute host command).runFrom world = (.ok (.ok answer, next), later)) :
    (explorer.tryCommand host command).runFrom world =
      (.ok (.ok answer, { explorer with session := some next }), later) := by
  have ready : explorer.isReady = true := by
    simp [isReady, isConnected, link, present, running, LinkPhase.isConnected]
  unfold tryCommand ensureConnected
  simp [ready, present, answered, stillRunning]

/-- A page on the wire is the listing that is returned. -/
theorem list_page {shell : LiveShell} {reading : Reading} {page : Page} {path : String}
    {endings : Nat → LineEnd} {pieces : List Piece} {lead : Option LineEnd}
    {early rest : List UInt8} {chunks : List (List UInt8)}
    (link : explorer.link = .connected) (present : explorer.session = some session)
    (running : session.stage = .running shell)
    (holds : shell.Holds ((Framing.after lead).receive early))
    (brings : host.Brings shell.child session.timeout session.markers
      (Shell.Command.list path).text world chunks later)
    (pageWellFormed : page.WellFormed reading)
    (piecesWellFormed : ∀ piece ∈ pieces, piece.isWellFormed = true)
    (printed : pieces.flatMap Piece.text = page.text endings)
    (clear : ¬ MarkerSource.stem (host.marker session.markers world) <:+:
      pieces.flatMap Piece.bytes)
    (come : early ++ chunks.flatten = leadBytes lead ++ (pieces.flatMap Piece.bytes ++
      (Utf8.encode (host.marker session.markers world).toList ++ rest))) :
    ∃ left : LiveShell, left.child = shell.child ∧
      (explorer.list host reading path).runFrom world =
        (.ok (.ok (page.listing reading), { explorer with
          path := String.ofList page.path
          session := some { session with
            markers := host.markersAfter session.markers world
            stage := .running left } }), later) := by
  obtain ⟨first, rooted⟩ := pageWellFormed.path_eq_cons
  have received : ((Framing.after lead).receive early).receive chunks.flatten =
      ⟨pieces.flatMap Piece.bytes ++
        (Utf8.encode (host.marker session.markers world).toList ++ rest), false⟩ := by
    rw [Framing.receive_receive, come, Framing.receive_after]
  have found : (((Framing.after lead).receive early).receive chunks.flatten).cut?
      (Utf8.encode (host.marker session.markers world).toList) 0 =
        some (pieces.flatMap Piece.bytes, (Framing.after (some .feed)).receive rest) := by
    rw [received]
    exact Framing.cut?_output _ _ clear _ _
  obtain ⟨left, same, _, requested⟩ := session.run_request running holds brings found
  let next : Session := { session with
    markers := host.markersAfter session.markers world
    stage := .running left }
  have answered : (session.execute host (Shell.Command.list path).text).runFrom world =
      (.ok (.ok (String.ofList (trimLineEnds (page.text endings))), next), later) := by
    unfold Session.execute
    simp [requested, Except.map, Session.answerText_pieces piecesWellFormed, printed, next]
  have isRunning : session.isRunning = true := Session.isRunning_iff.mpr ⟨shell, running⟩
  have tried := run_tryCommand link present isRunning rfl answered
  have read : read reading (String.ofList (trimLineEnds (page.text endings))) =
      .ok (page.listing reading) :=
    Page.read_of_same_inkedLines pageWellFormed endings (inkedLines_trimLineEnds _)
  have named : (page.listing reading).path ≠ "" := by
    simp [Page.listing, rooted]
  have connected : explorer.isConnected = true := by rw [isConnected, link]; rfl
  refine ⟨left, same, ?_⟩
  unfold list
  simp [connected, tried, read, named, next]
  rfl

/-- A page in colour comes after the line end of an earlier marker, which is cut in two. -/
theorem list_page_in_colour :
    let reading : Reading := ⟨Calendar.Zone.utc, ⟨0, 0, 0⟩⟩
    let pieces : List Piece := .control (.control [0x30, 0x31] [] 0x6D) ::
      (Page.sample.text fun _ => .returnFeed).map .char
    let printed := leadBytes (some .returnFeed) ++ (pieces.flatMap Piece.bytes ++
      (Utf8.encode "__MARK_0_1__".toList ++ LineEnd.bytes .feed))
    let chunks := [printed.take 1, printed.drop 1]
    let shell : LiveShell := { child := ⟨0⟩, framing := ⟨[], true⟩ }
    let session : Session :=
      ⟨.shell "sh", .running shell, ⟨0, 0, 1⟩, Session.defaultTimeout, none⟩
    let explorer : Explorer :=
      { new .new {} none with link := .connected, session := some session }
    explorer.link = .connected ∧ Page.sample.WellFormed reading ∧
      ∃ (listing : Listing) (left : LiveShell), left.child = shell.child ∧
        (explorer.list Host.replaying reading "/sdcard").runFrom [chunks] =
          (.ok (.ok listing, { explorer with
            path := "/sdcard"
            session := some { session with
              markers := Host.replaying.markersAfter session.markers [chunks]
              stage := .running left } }), []) ∧
        listing.path = "/sdcard" ∧
        listing.entries.map (fun entry => (entry.name, entry.kind, entry.size, entry.target)) =
          [(" a->b", .linkToDirectory, 21, some "/storage"), ("c", .brokenLink, 21, some "gone"),
            ("null", .file, 0, none)] := by
  intro reading pieces printed chunks shell session explorer
  have pieceShapes : ∀ piece ∈ pieces, piece.isWellFormed = true := by decide +kernel
  have text : pieces.flatMap Piece.text = Page.sample.text fun _ => .returnFeed := by
    simp [pieces, List.flatMap_map, Piece.text]
  have marker : Host.replaying.marker session.markers [chunks] = "__MARK_0_1__" := by
    decide +kernel
  have holds : shell.Holds ((Framing.after (some .returnFeed)).receive []) :=
    ⟨fun _ => rfl, [], rfl, rfl⟩
  have brings : Host.replaying.Brings shell.child session.timeout session.markers
      (Shell.Command.list "/sdcard").text [chunks] chunks [] :=
    ⟨by decide, .deadline, rfl⟩
  have clear : ¬ MarkerSource.stem (Host.replaying.marker session.markers [chunks]) <:+:
      pieces.flatMap Piece.bytes := by
    rw [marker]
    exact occursIn_eq_false_iff.mp (by decide +kernel)
  have come : [] ++ chunks.flatten = leadBytes (some .returnFeed) ++
      (pieces.flatMap Piece.bytes ++
        (Utf8.encode (Host.replaying.marker session.markers [chunks]).toList ++
          LineEnd.bytes .feed)) := by
    rw [marker]
    change [printed.take 1, printed.drop 1].flatten = printed
    rw [List.flatten_cons, List.flatten_singleton, List.take_append_drop]
  have link : explorer.link = .connected := rfl
  obtain ⟨left, same, listed⟩ := list_page link rfl rfl holds brings Page.sample_wellFormed
    pieceShapes text clear come
  exact ⟨link, Page.sample_wellFormed, _, left, same, listed, by decide, by decide⟩

end Explorer

end DeviceBrowser
