/-!
# The buffer of TypeScript code

Generated modules write to and read from a buffer class that comes with them.
-/

namespace PacketSmith.Support

/-- The lines of the module of the buffer. -/
def typescriptBufferLines : List String := [
  "import ProtocolManager from '../ProtocolManager';",
  "",
  "const INITIAL_SIZE = 128;",
  "",
  "const textEncoder = new TextEncoder();",
  "const textDecoder = new TextDecoder();",
  "",
  "class ByteBuffer \x7b",
  "    private buffer: ArrayBuffer = new ArrayBuffer(INITIAL_SIZE);",
  "    private view: DataView = new DataView(this.buffer);",
  "    writeOffset: number = 0;",
  "    readOffset: number = 0;",
  "",
  "    static wrap(bytes: Uint8Array): ByteBuffer \x7b",
  "        const byteBuffer = new ByteBuffer();",
  "        byteBuffer.writeBytes(bytes);",
  "        return byteBuffer;",
  "    \x7d",
  "",
  "    toBytes(): Uint8Array \x7b",
  "        return new Uint8Array(this.buffer.slice(0, this.writeOffset));",
  "    \x7d",
  "",
  "    isReadable(): boolean \x7b",
  "        return this.writeOffset > this.readOffset;",
  "    \x7d",
  "",
  "    private ensureCapacity(length: number): void \x7b",
  "        const required = this.writeOffset + length;",
  "        if (required <= this.buffer.byteLength) \x7b",
  "            return;",
  "        \x7d",
  "        const grown = new ArrayBuffer(required * 2);",
  "        new Uint8Array(grown).set(new Uint8Array(this.buffer));",
  "        this.buffer = grown;",
  "        this.view = new DataView(grown);",
  "    \x7d",
  "",
  "    private checkReadable(length: number): void \x7b",
  "        if (this.readOffset + length > this.writeOffset) \x7b",
  "            throw new Error('ByteBuffer read past the end of the written data');",
  "        \x7d",
  "    \x7d",
  "",
  "    writeBytes(bytes: Uint8Array): void \x7b",
  "        this.ensureCapacity(bytes.length);",
  "        new Uint8Array(this.buffer).set(bytes, this.writeOffset);",
  "        this.writeOffset += bytes.length;",
  "    \x7d",
  "",
  "    readBytes(length: number): Uint8Array \x7b",
  "        this.checkReadable(length);",
  "        const bytes = new Uint8Array(this.buffer.slice(this.readOffset, this.readOffset + length));",
  "        this.readOffset += length;",
  "        return bytes;",
  "    \x7d",
  "",
  "    writeBoolean(value: boolean): void \x7b",
  "        this.writeByte(value ? 1 : 0);",
  "    \x7d",
  "",
  "    readBoolean(): boolean \x7b",
  "        return this.readByte() === 1;",
  "    \x7d",
  "",
  "    writeByte(value: number): void \x7b",
  "        this.ensureCapacity(1);",
  "        this.view.setInt8(this.writeOffset, value);",
  "        this.writeOffset += 1;",
  "    \x7d",
  "",
  "    readByte(): number \x7b",
  "        this.checkReadable(1);",
  "        const value = this.view.getInt8(this.readOffset);",
  "        this.readOffset += 1;",
  "        return value;",
  "    \x7d",
  "",
  "    // Big-endian fixed width",
  "    writeShort(value: number): void \x7b",
  "        this.ensureCapacity(2);",
  "        this.view.setInt16(this.writeOffset, value);",
  "        this.writeOffset += 2;",
  "    \x7d",
  "",
  "    readShort(): number \x7b",
  "        this.checkReadable(2);",
  "        const value = this.view.getInt16(this.readOffset);",
  "        this.readOffset += 2;",
  "        return value;",
  "    \x7d",
  "",
  "    private writeVarUInt(value: bigint): void \x7b",
  "        while (value >= 0x80n) \x7b",
  "            this.writeByte(Number((value & 0x7fn) | 0x80n) << 24 >> 24);",
  "            value >>= 7n;",
  "        \x7d",
  "        this.writeByte(Number(value) << 24 >> 24);",
  "    \x7d",
  "",
  "    private readVarUInt(): bigint \x7b",
  "        let value = 0n;",
  "        for (let shift = 0n; shift < 64n; shift += 7n) \x7b",
  "            const b = BigInt(this.readByte() & 0xff);",
  "            value |= (b & 0x7fn) << shift;",
  "            if ((b & 0x80n) === 0n) \x7b",
  "                return value;",
  "            \x7d",
  "        \x7d",
  "        throw new Error('malformed varint');",
  "    \x7d",
  "",
  "    // Zigzag varint",
  "    writeInt(value: number): void \x7b",
  "        const zigzag = (BigInt(value) << 1n) ^ (BigInt(value) >> 31n);",
  "        this.writeVarUInt(BigInt.asUintN(32, zigzag));",
  "    \x7d",
  "",
  "    readInt(): number \x7b",
  "        const value = this.readVarUInt();",
  "        return Number(BigInt.asIntN(32, (value >> 1n) ^ -(value & 1n)));",
  "    \x7d",
  "",
  "    writeLong(value: number): void \x7b",
  "        const zigzag = (BigInt(value) << 1n) ^ (BigInt(value) >> 63n);",
  "        this.writeVarUInt(BigInt.asUintN(64, zigzag));",
  "    \x7d",
  "",
  "    readLong(): number \x7b",
  "        const value = this.readVarUInt();",
  "        return Number(BigInt.asIntN(64, (value >> 1n) ^ -(value & 1n)));",
  "    \x7d",
  "",
  "    writeFloat(value: number): void \x7b",
  "        const bits = new DataView(new ArrayBuffer(4));",
  "        bits.setFloat32(0, value);",
  "        this.writeInt(bits.getInt32(0));",
  "    \x7d",
  "",
  "    readFloat(): number \x7b",
  "        const bits = new DataView(new ArrayBuffer(4));",
  "        bits.setInt32(0, this.readInt());",
  "        return bits.getFloat32(0);",
  "    \x7d",
  "",
  "    writeDouble(value: number): void \x7b",
  "        const bits = new DataView(new ArrayBuffer(8));",
  "        bits.setFloat64(0, value);",
  "        this.writeLong(Number(bits.getBigInt64(0)));",
  "    \x7d",
  "",
  "    readDouble(): number \x7b",
  "        const bits = new DataView(new ArrayBuffer(8));",
  "        bits.setBigInt64(0, BigInt(this.readLong()));",
  "        return bits.getFloat64(0);",
  "    \x7d",
  "",
  "    writeChar(value: string): void \x7b",
  "        this.writeString(value.length === 0 ? '' : value.charAt(0));",
  "    \x7d",
  "",
  "    readChar(): string \x7b",
  "        return this.readString().charAt(0);",
  "    \x7d",
  "",
  "    writeString(value: string): void \x7b",
  "        const bytes = textEncoder.encode(value);",
  "        this.writeInt(bytes.length);",
  "        this.writeBytes(bytes);",
  "    \x7d",
  "",
  "    readString(): string \x7b",
  "        const length = this.readInt();",
  "        if (length <= 0) \x7b",
  "            return '';",
  "        \x7d",
  "        return textDecoder.decode(this.readBytes(length));",
  "    \x7d",
  "",
  "    // Returns true when packet is null and nothing else has to be written",
  "    writePacketFlag(packet: any): boolean \x7b",
  "        const isNull = packet === null || packet === undefined;",
  "        this.writeBoolean(!isNull);",
  "        return isNull;",
  "    \x7d",
  "",
  "    writePacket(packet: any, protocolId: number): void \x7b",
  "        ProtocolManager.getProtocol(protocolId).write(this, packet);",
  "    \x7d",
  "",
  "    readPacket(protocolId: number): any \x7b",
  "        return ProtocolManager.getProtocol(protocolId).read(this);",
  "    \x7d",
  "\x7d",
  "",
  "export default ByteBuffer;"]

/-- The text of the module of the buffer. -/
def typescriptBuffer : String := String.join (typescriptBufferLines.map (· ++ "\n"))

end PacketSmith.Support
