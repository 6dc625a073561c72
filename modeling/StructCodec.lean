import StructCodec.Bytes.Writer
import StructCodec.Layout.Notes
import StructCodec.Main
import StructCodec.Proofs.ByteOrderMirror
import StructCodec.Proofs.ClassFormats
import StructCodec.Proofs.Congruence
import StructCodec.Proofs.DeclaredScalars
import StructCodec.Proofs.EffectiveLayout
import StructCodec.Proofs.FormatDescription
import StructCodec.Proofs.FormatLanguage
import StructCodec.Proofs.Geometry
import StructCodec.Proofs.GivenFormats
import StructCodec.Proofs.IntegerCodecs
import StructCodec.Proofs.LayoutRuns
import StructCodec.Proofs.LowOrderBytes
import StructCodec.Proofs.NarrowingPolicies
import StructCodec.Proofs.PackedForm
import StructCodec.Proofs.PackingOutcome
import StructCodec.Proofs.ReaderRuns
import StructCodec.Proofs.RecordConstruction
import StructCodec.Proofs.RecordMakers
import StructCodec.Proofs.RecordRoundTrip
import StructCodec.Proofs.RecordUnpacking
import StructCodec.Proofs.RoundTrip
import StructCodec.Proofs.SchemaExtraction
import StructCodec.Proofs.SessionRuns
import StructCodec.Proofs.ShapedRoundTrip
import StructCodec.Proofs.UnpackingOutcome
import StructCodec.Proofs.UnreadBytes
import StructCodec.Proofs.WriterReplay
import StructCodec.Record.Session
