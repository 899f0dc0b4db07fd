/-
The resolutions of the camera: `CVideoCapture::GetVideoResolution` lists them, the dialog
shows them as text, and `OnBnClickedButtonCapture` reads the chosen text back.

The driver answers `GetStreamCaps` for each format, or fails.  Of the dialog only what the
resolutions pass through is kept.
-/
import DShowCapture.Library.CString
import DShowCapture.Library.FixedWidth
import Mathlib.Data.List.Pairwise

namespace DShowCapture

open CString FixedWidth

inductive MediaSubtype
  | rgb24 | rgb555 | rgb32 | rgb565 | rgb8 | ijpg | yuy2 | yuyv | h264 | mjpg | y41p | other
  deriving DecidableEq, Repr

def MediaSubtype.strSubType : MediaSubtype → String
  | .rgb24 => "RGB24"
  | .rgb555 => "RGB555"
  | .rgb32 => "RGB32"
  | .rgb565 => "RGB565"
  | .rgb8 => "RGB8"
  | .ijpg => "IJPG"
  | .yuy2 => "YUY2"
  | .yuyv => "YUYV"
  | .h264 => "H264"
  | .mjpg => "MJPG"
  | .y41p => "Y41P"
  | .other => "其他"

structure VideoInfoHeader where
  biWidth : Int
  biHeight : Int
  widthRange : -2147483648 ≤ biWidth ∧ biWidth < 2147483648
  heightRange : -2147483648 ≤ biHeight ∧ biHeight < 2147483648

structure AMMediaType where
  /-- `majortype == MEDIATYPE_Video` -/
  isVideo : Bool
  subtype : MediaSubtype
  lSampleSize : Nat
  /-- `formattype == FORMAT_VideoInfo` -/
  isVideoInfo : Bool
  cbFormat : Nat
  pbFormat : Option VideoInfoHeader

/-- What `GetNumberOfCapabilities` and the calls of `GetStreamCaps` give. -/
structure StreamConfig where
  iSize : Nat
  streamCaps : List (Option AMMediaType)

structure CamResolutionInfo where
  nWidth : Int
  nHeight : Int
  nResolutionIndex : Int
  strSubType : String
  lSampleRate : Int

def sizeofStreamConfigCaps : Nat := 128

def sizeofVideoInfoHeader : Nat := 88

/-- The body of the loop over the formats.  A resolution that is in the list already is
skipped. -/
def addResolution (VidResolution : List CamResolutionInfo) (iFormat : Nat) :
    Option AMMediaType → List CamResolutionInfo
  | none => VidResolution
  | some pmtConfig =>
      match pmtConfig.pbFormat with
      | none => VidResolution
      | some pVih =>
          if pmtConfig.isVideo && pmtConfig.isVideoInfo &&
              pmtConfig.cbFormat ≥ sizeofVideoInfoHeader then
            if VidResolution.any fun sInfo =>
                sInfo.nWidth == pVih.biWidth && sInfo.nHeight == pVih.biHeight then
              VidResolution
            else
              VidResolution ++
                [{ nWidth := pVih.biWidth
                   nHeight := pVih.biHeight
                   nResolutionIndex := iFormat
                   strSubType := pmtConfig.subtype.strSubType
                   lSampleRate := i32 pmtConfig.lSampleSize }]
          else VidResolution

def addResolutions (VidResolution : List CamResolutionInfo) (iFormat : Nat) :
    List (Option AMMediaType) → List CamResolutionInfo
  | [] => VidResolution
  | pmtConfig :: rest =>
      addResolutions (addResolution VidResolution iFormat pmtConfig) (iFormat + 1) rest

def getVideoResolution (config : StreamConfig) : List CamResolutionInfo :=
  if config.iSize = sizeofStreamConfigCaps then addResolutions [] 0 config.streamCaps else []

/-- The text of a resolution in the combo box. -/
def CamResolutionInfo.strFormat (self : CamResolutionInfo) : List Char :=
  formatInt self.nWidth ++ " * ".toList ++ formatInt self.nHeight ++ " , ".toList ++
    self.strSubType.toList ++ ", 采样率:".toList ++ formatInt self.lSampleRate

structure CaptureDialog where
  init : Bool
  isVideoOpen : Bool
  cbxVideoResList : List (List Char)
  camResolutionArr : List CamResolutionInfo
  width : Int
  height : Int
  sampleRate : Int

inductive CaptureCall
  | messageBox
  | stopCapture
  | startCapture (index width height : Int)
  deriving DecidableEq, Repr

namespace CaptureDialog

/-- The part of `OnBnClickedButtonInit` behind its checks that fills the combo box. -/
def onBnClickedButtonInit (self : CaptureDialog) (config : StreamConfig) : CaptureDialog :=
  let VidResolution := getVideoResolution config
  { self with
    init := true
    cbxVideoResList :=
      self.cbxVideoResList ++ VidResolution.map CamResolutionInfo.strFormat
    camResolutionArr := VidResolution }

/-- The width and the height in the chosen text. -/
def setSize (strResolution : List Char) : Int × Int :=
  let nFindValue := find strResolution '*'
  if nFindValue > 0 then
    let strTempValue := mid strResolution (nFindValue + 1)
    (ttoi (left strResolution nFindValue), ttoi (left strTempValue (find strTempValue ',')))
  else (-1, -1)

/-- `OnBnClickedButtonCapture`, with the text of the current selection.  The test of the
loop assigns to the copy of the entry: it compares the heights only, and fails when the
width that was set is zero. -/
def onBnClickedButtonCapture (self : CaptureDialog) (selected : Option (List Char)) :
    CaptureCall × CaptureDialog :=
  if !self.init then (.messageBox, self)
  else if self.isVideoOpen then (.stopCapture, { self with isVideoOpen := false })
  else
    match selected with
    | none => (.messageBox, self)
    | some strResolution =>
        if strResolution.isEmpty then (.messageBox, self)
        else
          let (nSetWidth, nSetHeight) := setSize strResolution
          let found := self.camResolutionArr.find? fun camInfo =>
            nSetWidth != 0 && camInfo.nHeight == nSetHeight
          let nResolutionIndex := (found.map CamResolutionInfo.nResolutionIndex).getD 0
          (.startCapture nResolutionIndex nSetWidth nSetHeight,
            { self with
              isVideoOpen := true
              sampleRate := (found.map CamResolutionInfo.lSampleRate).getD self.sampleRate
              width := nSetWidth
              height := nSetHeight })

end CaptureDialog

/-! ### The list of resolutions -/

structure ListsFormats (VidResolution : List CamResolutionInfo) (next : Nat) : Prop where
  ordered : VidResolution.Pairwise fun first second =>
    first.nResolutionIndex < second.nResolutionIndex
  below : ∀ entry, entry ∈ VidResolution → entry.nResolutionIndex < next
  widths : ∀ entry, entry ∈ VidResolution →
    -2147483648 ≤ entry.nWidth ∧ entry.nWidth < 2147483648
  heights : ∀ entry, entry ∈ VidResolution →
    -2147483648 ≤ entry.nHeight ∧ entry.nHeight < 2147483648

theorem ListsFormats.later {VidResolution : List CamResolutionInfo} {next : Nat}
    (lists : ListsFormats VidResolution next) : ListsFormats VidResolution (next + 1) :=
  { lists with
    below := fun entry member => by
      have before := lists.below entry member
      omega }

theorem ListsFormats.add {VidResolution : List CamResolutionInfo} {next : Nat}
    (lists : ListsFormats VidResolution next) (pmtConfig : Option AMMediaType) :
    ListsFormats (addResolution VidResolution next pmtConfig) (next + 1) := by
  cases pmtConfig with
  | none => exact lists.later
  | some pmtConfig =>
      rw [addResolution]
      split
      · exact lists.later
      · rename_i pVih _
        split
        · split
          · exact lists.later
          · refine
              { ordered := ?_
                below := ?_
                widths := ?_
                heights := ?_ }
            · rw [List.pairwise_append]
              refine ⟨lists.ordered, List.pairwise_singleton _ _, ?_⟩
              intro entry member new isNew
              rw [List.mem_singleton.mp isNew]
              exact lists.below entry member
            · intro entry member
              rcases List.mem_append.mp member with old | new
              · have before := lists.below entry old
                omega
              · rw [List.mem_singleton.mp new]
                dsimp only
                omega
            · intro entry member
              rcases List.mem_append.mp member with old | new
              · exact lists.widths entry old
              · rw [List.mem_singleton.mp new]
                exact pVih.widthRange
            · intro entry member
              rcases List.mem_append.mp member with old | new
              · exact lists.heights entry old
              · rw [List.mem_singleton.mp new]
                exact pVih.heightRange
        · exact lists.later

theorem ListsFormats.addAll {VidResolution : List CamResolutionInfo} {next : Nat}
    (lists : ListsFormats VidResolution next) (streamCaps : List (Option AMMediaType)) :
    ∃ last, ListsFormats (addResolutions VidResolution next streamCaps) last := by
  induction streamCaps generalizing VidResolution next with
  | nil => exact ⟨next, lists⟩
  | cons pmtConfig rest ih => exact ih (lists.add pmtConfig)

theorem listsFormats_getVideoResolution (config : StreamConfig) :
    ∃ last, ListsFormats (getVideoResolution config) last := by
  have nothing : ListsFormats [] 0 :=
    { ordered := List.Pairwise.nil
      below := fun _ member => absurd member List.not_mem_nil
      widths := fun _ member => absurd member List.not_mem_nil
      heights := fun _ member => absurd member List.not_mem_nil }
  rw [getVideoResolution]
  split
  · exact nothing.addAll config.streamCaps
  · exact ⟨0, nothing⟩

/-! ### The chosen text -/

/-- The size that is read from the text of an entry is its own. -/
theorem setSize_strFormat {entry : CamResolutionInfo}
    (widthRange : -2147483648 ≤ entry.nWidth ∧ entry.nWidth < 2147483648)
    (heightRange : -2147483648 ≤ entry.nHeight ∧ entry.nHeight < 2147483648) :
    CaptureDialog.setSize entry.strFormat = (entry.nWidth, entry.nHeight) := by
  generalize restEq : ' ' :: (entry.strSubType.toList ++ ", 采样率:".toList ++
    formatInt entry.lSampleRate) = rest
  have shape : entry.strFormat = (formatInt entry.nWidth ++ [' ']) ++
      '*' :: ([' '] ++ (formatInt entry.nHeight ++ [' ']) ++ ',' :: rest) := by
    rw [← restEq]
    simp [CamResolutionInfo.strFormat]
  have noStar : '*' ∉ formatInt entry.nWidth ++ [' '] := by
    rw [List.mem_append, not_or]
    exact ⟨notMem_formatInt (by decide) (by decide), by decide⟩
  have noComma : ',' ∉ [' '] ++ (formatInt entry.nHeight ++ [' ']) := by
    rw [List.mem_append, List.mem_append, not_or, not_or]
    exact ⟨by decide, notMem_formatInt (by decide) (by decide), by decide⟩
  have positive : find entry.strFormat '*' > 0 := by
    rw [shape, find_append noStar, List.length_append, List.length_singleton]
    omega
  have width := ttoi_formatInt widthRange.1 widthRange.2
    (fun char member => absurd member List.not_mem_nil : ∀ char, char ∈ [] → isSpace char = true)
    (rfl : [' '].takeWhile Char.isDigit = [])
  have height := ttoi_formatInt heightRange.1 heightRange.2
    (List.forall_mem_singleton.mpr rfl : ∀ char, char ∈ [' '] → isSpace char = true)
    (rfl : [' '].takeWhile Char.isDigit = [])
  simp only [CaptureDialog.setSize, if_pos positive]
  rw [shape, left_find noStar, mid_find noStar, left_find noComma, height]
  exact congrArg (·, entry.nHeight) width

namespace CaptureDialog

theorem find?_eq {before after : List CamResolutionInfo} {entry : CamResolutionInfo}
    (nonzero : entry.nWidth ≠ 0)
    (noEarlier : ∀ earlier, earlier ∈ before → earlier.nHeight ≠ entry.nHeight) :
    (before ++ entry :: after).find? (fun camInfo =>
      entry.nWidth != 0 && camInfo.nHeight == entry.nHeight) = some entry := by
  have noneBefore : before.find? (fun camInfo =>
      entry.nWidth != 0 && camInfo.nHeight == entry.nHeight) = none := by
    rw [List.find?_eq_none]
    intro earlier member
    simp [noEarlier earlier member]
  have isFound : (entry.nWidth != 0 && entry.nHeight == entry.nHeight) = true := by
    simp [nonzero]
  rw [List.find?_append, noneBefore, Option.none_or, List.find?_cons, isFound]

theorem find?_of_earlier {before : List CamResolutionInfo} (after : List CamResolutionInfo)
    {entry earlier : CamResolutionInfo} (nonzero : entry.nWidth ≠ 0) (member : earlier ∈ before)
    (same : earlier.nHeight = entry.nHeight) :
    ∃ other, other ∈ before ∧
      (before ++ entry :: after).find? (fun camInfo =>
        entry.nWidth != 0 && camInfo.nHeight == entry.nHeight) = some other := by
  have someFound : (before.find? fun camInfo =>
      entry.nWidth != 0 && camInfo.nHeight == entry.nHeight).isSome := by
    rw [List.find?_isSome]
    exact ⟨earlier, member, by simp [nonzero, same]⟩
  obtain ⟨other, found⟩ := Option.isSome_iff_exists.mp someFound
  refine ⟨other, List.mem_of_find?_eq_some found, ?_⟩
  rw [List.find?_append, found, Option.some_or]

/-- The call that the button makes, in terms of the entry that was chosen. -/
theorem onBnClickedButtonCapture_strFormat {dialog : CaptureDialog} (ready : dialog.init = true)
    (closed : dialog.isVideoOpen = false) {entry : CamResolutionInfo}
    (widthRange : -2147483648 ≤ entry.nWidth ∧ entry.nWidth < 2147483648)
    (heightRange : -2147483648 ≤ entry.nHeight ∧ entry.nHeight < 2147483648) :
    (dialog.onBnClickedButtonCapture (some entry.strFormat)).1 =
      .startCapture
        (((dialog.camResolutionArr.find? fun camInfo =>
          entry.nWidth != 0 && camInfo.nHeight == entry.nHeight).map
            CamResolutionInfo.nResolutionIndex).getD 0)
        entry.nWidth entry.nHeight := by
  have someText : entry.strFormat.isEmpty = false := by
    simp [CamResolutionInfo.strFormat]
  simp only [onBnClickedButtonCapture, ready, closed, someText,
    setSize_strFormat widthRange heightRange, Bool.not_true, Bool.false_eq_true, if_false]

/-- The capture is started with the index of the chosen entry if and only if no entry before
it has its height and its width is not zero, or its width is zero and its index too. -/
theorem startCapture_own_iff {config : StreamConfig} {before after : List CamResolutionInfo}
    {entry : CamResolutionInfo} (listed : getVideoResolution config = before ++ entry :: after)
    {dialog : CaptureDialog} (ready : dialog.init = true) (closed : dialog.isVideoOpen = false)
    (shown : dialog.camResolutionArr = getVideoResolution config) :
    (dialog.onBnClickedButtonCapture (some entry.strFormat)).1 =
        .startCapture entry.nResolutionIndex entry.nWidth entry.nHeight ↔
      (entry.nWidth ≠ 0 ∧
          ∀ earlier, earlier ∈ before → earlier.nHeight ≠ entry.nHeight) ∨
        (entry.nWidth = 0 ∧ entry.nResolutionIndex = 0) := by
  obtain ⟨last, lists⟩ := listsFormats_getVideoResolution config
  rw [listed] at lists
  have member : entry ∈ before ++ entry :: after :=
    List.mem_append_right before List.mem_cons_self
  rw [onBnClickedButtonCapture_strFormat ready closed (lists.widths entry member)
    (lists.heights entry member), shown, listed]
  by_cases zero : entry.nWidth = 0
  · have noneFound : (before ++ entry :: after).find? (fun camInfo =>
        entry.nWidth != 0 && camInfo.nHeight == entry.nHeight) = none := by
      rw [List.find?_eq_none]
      simp [zero]
    rw [noneFound]
    simp [zero, eq_comm]
  · have notZero : ¬ (entry.nWidth = 0 ∧ entry.nResolutionIndex = 0) := fun both => zero both.1
    rw [or_iff_left notZero]
    constructor
    · intro own
      refine ⟨zero, fun earlier isEarlier same => ?_⟩
      obtain ⟨other, isBefore, found⟩ := find?_of_earlier after zero isEarlier same
      have smaller := (List.pairwise_append.mp lists.ordered).2.2 other isBefore entry
        List.mem_cons_self
      rw [found] at own
      have sameIndex : other.nResolutionIndex = entry.nResolutionIndex := by
        simpa using own
      omega
    · rintro ⟨_, noEarlier⟩
      rw [find?_eq zero noEarlier]
      rfl

/-- The second of the formats 640 * 480 and 320 * 240. -/
theorem startCapture_own_secondFormat :
    let format (pVih : VideoInfoHeader) : Option AMMediaType :=
      some
        { isVideo := true
          subtype := .yuy2
          lSampleSize := 614400
          isVideoInfo := true
          cbFormat := 88
          pbFormat := some pVih }
    let config : StreamConfig :=
      { iSize := 128
        streamCaps :=
          [format ⟨640, 480, by decide, by decide⟩, format ⟨320, 240, by decide, by decide⟩] }
    let dialog : CaptureDialog :=
      onBnClickedButtonInit ⟨false, false, [], [], 0, 0, 0⟩ config
    let entry : CamResolutionInfo := ⟨320, 240, 1, "YUY2", 614400⟩
    (dialog.onBnClickedButtonCapture (some entry.strFormat)).1 = .startCapture 1 320 240 := by
  intro format config dialog entry
  have listed : getVideoResolution config =
      [⟨640, 480, 0, "YUY2", 614400⟩] ++ entry :: [] := rfl
  refine (startCapture_own_iff listed (rfl : dialog.init = true)
    (rfl : dialog.isVideoOpen = false) rfl).mpr (Or.inl ⟨by decide, ?_⟩)
  intro earlier member
  rw [List.mem_singleton.mp member]
  decide

/-- The second of the formats 640 * 480 and 720 * 480: the capture is started with the size
of the second and the index of the first. -/
theorem startCapture_sameHeight :
    let format (pVih : VideoInfoHeader) : Option AMMediaType :=
      some
        { isVideo := true
          subtype := .yuy2
          lSampleSize := 614400
          isVideoInfo := true
          cbFormat := 88
          pbFormat := some pVih }
    let config : StreamConfig :=
      { iSize := 128
        streamCaps :=
          [format ⟨640, 480, by decide, by decide⟩, format ⟨720, 480, by decide, by decide⟩] }
    let dialog : CaptureDialog :=
      onBnClickedButtonInit ⟨false, false, [], [], 0, 0, 0⟩ config
    let entry : CamResolutionInfo := ⟨720, 480, 1, "YUY2", 614400⟩
    getVideoResolution config = [⟨640, 480, 0, "YUY2", 614400⟩, entry] ∧
      (dialog.onBnClickedButtonCapture (some entry.strFormat)).1 = .startCapture 0 720 480 := by
  intro format config dialog entry
  refine ⟨rfl, ?_⟩
  exact onBnClickedButtonCapture_strFormat (rfl : dialog.init = true)
    (rfl : dialog.isVideoOpen = false)
    (by decide : -2147483648 ≤ entry.nWidth ∧ entry.nWidth < 2147483648)
    (by decide : -2147483648 ≤ entry.nHeight ∧ entry.nHeight < 2147483648)

end CaptureDialog

end DShowCapture
