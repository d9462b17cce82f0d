import BareMetal.Main
import BareMetal.Proofs.Outcome
import BareMetal.Proofs.Pieces
import BareMetal.Proofs.Text.Digits
import BareMetal.Proofs.Text.Lines
import BareMetal.Proofs.MemoryImage
import BareMetal.Proofs.Text.Hexadecimal
import BareMetal.Proofs.Text.Utf8
import BareMetal.Proofs.Text.CharacterStarts
import BareMetal.Proofs.Disk.Addressing
import BareMetal.Proofs.Disk.Overlay
import BareMetal.Proofs.Disk.Flatten
import BareMetal.Proofs.Disk.PartitionEntry
import BareMetal.Proofs.Disk.HardDisk
import BareMetal.Proofs.Disk.Capacity
import BareMetal.Proofs.Disk.Partition
import BareMetal.Proofs.Disk.KernelPlacement
import BareMetal.Proofs.Disk.BootBlock
import BareMetal.Proofs.Disk.LongwordSum
import BareMetal.Proofs.Disk.AmigaFloppy
import BareMetal.Proofs.Disc.SliceWalk
import BareMetal.Proofs.Disc.SliceOrder
import BareMetal.Proofs.Disc.SingleCycle
import BareMetal.Proofs.Disc.ChunkPlan
import BareMetal.Proofs.Disc.BootHeader
import BareMetal.Proofs.Disc.CheckDigits
import BareMetal.Proofs.Disc.FoundDigits
import BareMetal.Proofs.Disc.HeaderSlices
import BareMetal.Proofs.Disc.Description
import BareMetal.Proofs.Disc.AreaSymbols
import BareMetal.Proofs.Deck.Card
import BareMetal.Proofs.Deck.Loading
import BareMetal.Proofs.Deck.ObjectDeck
import BareMetal.Proofs.Deck.Operations
import BareMetal.Proofs.Deck.StatusWord
import BareMetal.Proofs.Deck.AddressRange
import BareMetal.Proofs.Design.AdaPackage
import BareMetal.Proofs.Design.Written
import BareMetal.Proofs.Design.Documents
import BareMetal.Proofs.Design.Scanning
import BareMetal.Proofs.Design.Attributes
import BareMetal.Proofs.Design.Reading
import BareMetal.Proofs.Design.BaseAddress
import BareMetal.Proofs.Design.MissingAddress
import BareMetal.Proofs.Design.ConstantNames
import BareMetal.Proofs.Design.DesignFile
import BareMetal.Proofs.ObjectFile.Names
import BareMetal.Proofs.ObjectFile.Layout
import BareMetal.Proofs.ObjectFile.Fields
import BareMetal.Proofs.ObjectFile.TableReading
import BareMetal.Proofs.ObjectFile.Linkage
import BareMetal.Proofs.ObjectFile.Lookup
import BareMetal.Proofs.Host.FileSystem
import BareMetal.Proofs.Host.Finding
import BareMetal.Proofs.ImageTool.Products
import BareMetal.Proofs.ImageTool.AddressPackage
import BareMetal.Proofs.ImageTool.Writing
import BareMetal.Proofs.ImageTool.DiskWriting
import BareMetal.Proofs.ImageTool.Execution
import BareMetal.Proofs.Target.Line
import BareMetal.Proofs.Target.Response
import BareMetal.Proofs.Target.StartRecord
import BareMetal.Proofs.Target.Writing
import BareMetal.Proofs.Target.CommandList
import BareMetal.Proofs.Target.DownloadSteps
import BareMetal.Proofs.Target.Exchange
import BareMetal.Proofs.Target.DownloadRun
import BareMetal.Proofs.Target.Cutting
import BareMetal.Proofs.Target.Echo
import BareMetal.Proofs.Target.Packets
import BareMetal.Proofs.Target.LoaderCalls
import BareMetal.Proofs.Target.LoaderRun
import BareMetal.Proofs.Target.Upload
import BareMetal.Proofs.Target.MonitorResponse
import BareMetal.Proofs.Target.MonitorRun
import BareMetal.Proofs.Target.RecordRun
import BareMetal.Proofs.DownloadTool.AddressText
