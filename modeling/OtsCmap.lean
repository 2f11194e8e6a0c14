import OtsCmap.Buffer
import OtsCmap.Table
import OtsCmap.Format4
import OtsCmap.CharIndex
import OtsCmap.Lookup
import OtsCmap.Format14
import OtsCmap.Rebuilt
import OtsCmap.Overlap
import OtsCmap.Directory
import OtsCmap.Relocate
import OtsCmap.Slots
import OtsCmap.Provenance
import OtsCmap.Stream
import OtsCmap.Serialise
import OtsCmap.Layout
import OtsCmap.RoundTrip
import OtsCmap.Resanitise
import OtsCmap.CharIndexFixpoint
import OtsCmap.Cycle
